import CloudreveAdmin.Policy.List
import CloudreveAdmin.File.Import
import CloudreveAdmin.Group.Session

/-!
# Which answer is on screen

Three components fetch data for parameters the administrator changes: `Import` searches users
for the debounced term, `EditGroupPreload` loads the group of the route's `id`, and `Policy`
lists a page of policies. None of them checks which request an answer belongs to: each writes
whatever reply arrives into its state. When replies overtake each other the data on screen
answers an older request (`Import.late_search_reply_shown`).

When the server answers in the order of the requests and succeeds, from tables that only the
page itself changes, each component shows, once nothing of that kind is in flight, the answer
to the request it sent last: the users the server finds for the current term, the conversion
of the server's record of the current `id`, and the rows and count of the server's table for
the parameters of the last list request. `Policy` sends that request from the effect or the
refresh button with the current parameters, and after a deletion with the parameters of the
render in which the delete button was clicked. The group is the state of `EditGroupPreload`:
the `GroupForm` it renders keeps the group it was mounted with (`Group.Editor`).
-/

namespace CloudreveAdmin

/-- A server whose search finds one user for every term. -/
def oneUser (_ : String) : JsValue :=
  .obj [("items", .arr [Import.pickedUser])]

/-- A search answered in order. -/
def searchInOrder : List Import.Event :=
  [.typeUser "admin", .debounce, .reply 0 (.ok .null)]

/-- The page after `searchInOrder`. -/
def searchedInOrder : Import.Page :=
  ((Import.servedInOrder oneUser).run Import.init searchInOrder).getD Import.init

/-- A server that holds `GroupForm.sampleGroup` for every ID. -/
def sampleRecords (_ : String) : JsValue :=
  GroupForm.sampleGroup

/-- A second group loaded, both answers arriving in order. -/
def loadInOrder : List EditGroupPreload.Event :=
  [.route "2", .reply 0 (.ok .null), .reply 0 (.ok .null)]

/-- The page after `loadInOrder`. -/
def loadedInOrder : EditGroupPreload.Preload :=
  ((EditGroupPreload.servedInOrder JsonText.textCodec sampleRecords).run
    (EditGroupPreload.init "1") loadInOrder).getD (EditGroupPreload.init "1")

/-- Two pages of `elevenLocal` listed, the answers arriving in order. -/
def listInOrder : List Policy.Event :=
  [.reply 0 .ok, .nextPage, .reply 0 .ok]

/-- The page after `listInOrder`. -/
def listedInOrder : Policy.Page :=
  (Policy.orderly.run (Policy.init Policy.elevenLocal) listInOrder).getD (Policy.init [])

example : searchedInOrder.users = .arr [Import.pickedUser] ∧ listedInOrder.policies.length = 1 :=
  ⟨rfl, rfl⟩

end CloudreveAdmin
