import CloudreveAdmin.Js.ParseInt
import CloudreveAdmin.Machine

/-!
# Importing an external directory

`Import` creates a task that imports a directory of a storage policy into a user's files. The
administrator finds the user by typing in a search box: `useDebounce` copies the text into
`debouncedSearchTerm` once it has not changed for 500 ms, and the effect on that term posts it
to `/admin/user/list` when it is not empty; the answer becomes the list of users to pick from.
`submit` posts the task to `/admin/task/import` and disables its button until the server
answers; on success the page moves to the file list.

The model leaves out the list of policies the page loads for its select and the dialogs that
pick paths: they only fill in `options.policy`, `options.src` and `options.dst`, which the
events `policy`, `src` and `dst` set directly. The 500 ms timer is the event `debounce`, which
can happen whenever the text differs from the debounced term. The state records two facts
about the run that the component does not keep: `shownFor`, the term of the search whose
answer is on screen, and `lastSent`, the term of the search sent last.
-/

namespace CloudreveAdmin

namespace Import

/-- A request the page sends. -/
inductive Request where
  /-- `POST /admin/user/list` with `nick` and `email` searched for `term`. -/
  | search (term : String)
  /-- `POST /admin/task/import`. -/
  | importTask (body : JsValue)

/-- The server's answer: `response.data`, or the error the API layer rejects with. -/
inductive Reply where
  | ok (data : JsValue)
  | fail (message : String)

/-- The state of the page. -/
structure Page where
  loading : Bool
  policy : JsValue
  userInput : String
  src : String
  dst : String
  recursive : Bool
  users : JsValue
  user : Option JsValue
  debounced : String
  notice : Option Notice
  /-- The page has moved to the file list. -/
  left : Bool
  inFlight : List Request
  shownFor : Option String
  lastSent : Option String

/-- The page as it opens. -/
def init : Page where
  loading := false
  policy := .num 1
  userInput := ""
  src := ""
  dst := ""
  recursive := true
  users := .arr []
  user := none
  debounced := ""
  notice := none
  left := false
  inFlight := []
  shownFor := none
  lastSent := none

/-- The body `submit` posts for the user `user`. -/
def importBody (s : Page) (user : JsValue) : JsValue :=
  .obj [("uid", user.get "ID"), ("policy_id", parseInt s.policy), ("src", .str s.src),
    ("dst", .str s.dst), ("recursive", .bool s.recursive)]

/-- `submit`: a warning when no user is chosen, the request otherwise. -/
def submit (s : Page) : Page :=
  match s.user with
  | none => { s with notice := some ⟨"請先選擇目標使用者", "warning"⟩ }
  | some user =>
      { s with loading := true, inFlight := s.inFlight ++ [.importTask (importBody s user)] }

/-- The timer of `useDebounce` and the effect on the debounced term. -/
def debounce (s : Page) : Page :=
  if s.userInput = "" then { s with debounced := s.userInput }
  else
    { s with debounced := s.userInput, inFlight := s.inFlight ++ [.search s.userInput],
             lastSent := some s.userInput }

/-- An action of the administrator, the debounce timer, or a reply of the server. -/
inductive Event where
  /-- The policy select, `handleChange("policy")`. -/
  | policy (value : String)
  /-- The user search box, `handleChange("userInput")`. -/
  | typeUser (text : String)
  | debounce
  /-- The entry at `index` of the list of users found, `selectUser`. -/
  | selectUser (index : Nat)
  /-- The delete icon of the chosen user's chip. -/
  | clearUser
  /-- The source path, typed or picked. -/
  | src (path : String)
  /-- The destination path, typed or picked. -/
  | dst (path : String)
  /-- The switch `handleCheckChange("recursive")`. -/
  | recursive (checked : Bool)
  /-- The button 建立匯入任務, which submits the form. -/
  | submit
  /-- The server answers the request at `index` among those in flight. -/
  | reply (index : Nat) (answer : Reply)

/-- The items of the list of users found. -/
def Page.found (s : Page) : List JsValue :=
  match s.users with
  | .arr items => items
  | _ => []

/-- The controls the page shows and does not disable; the form is submitted only with both
paths filled in, which the inputs require. -/
def enabled (s : Page) : Event → Bool
  | .typeUser _ => !s.left && s.user.isNone
  | .debounce => !s.left && s.userInput ≠ s.debounced
  | .selectUser index => !s.left && s.userInput ≠ "" && index < s.found.length
  | .clearUser => !s.left && s.user.isSome
  | .submit => !s.left && !s.loading && s.src ≠ "" && s.dst ≠ ""
  | .reply index _ => index < s.inFlight.length
  | _ => !s.left

/-- What the `.then` and `.catch` of a request do with its reply. -/
def receive (s : Page) : Request → Reply → Page
  | .search term, .ok data => { s with users := data.get "items", shownFor := some term }
  | .search _, .fail message => { s with notice := some ⟨message, "error"⟩ }
  | .importTask _, .ok _ =>
      { s with loading := false, left := true,
               notice := some ⟨"匯入任務已建立，您可以在「持久任務」中查看執行情況", "success"⟩ }
  | .importTask _, .fail message =>
      { s with loading := false, notice := some ⟨message, "error"⟩ }

/-- What an event does. -/
def step (s : Page) : Event → Page
  | .policy value => { s with policy := .str value }
  | .typeUser text => { s with userInput := text }
  | .debounce => debounce s
  | .selectUser index => { s with userInput := "", user := s.found.get? index }
  | .clearUser => { s with user := none }
  | .src path => { s with src := path }
  | .dst path => { s with dst := path }
  | .recursive checked => { s with recursive := checked }
  | .submit => submit s
  | .reply index answer =>
      match s.inFlight.get? index with
      | some request => receive { s with inFlight := s.inFlight.eraseIdx index } request answer
      | none => s

/-- The page as a transition system. -/
def machine : Machine Page Event where
  enabled := enabled
  step := step

/-! ## The import task -/

/-- An import task request. -/
def Request.isImport : Request → Bool
  | .importTask _ => true
  | .search _ => false

theorem step_reply {s : Page} {index : Nat} {request : Request}
    (found : s.inFlight.get? index = some request) (answer : Reply) :
    step s (.reply index answer) =
      receive { s with inFlight := s.inFlight.eraseIdx index } request answer := by
  simp only [step, found]

@[simp]
theorem receive_inFlight (s : Page) (request : Request) (answer : Reply) :
    (receive s request answer).inFlight = s.inFlight := by
  cases request <;> cases answer <;> rfl

theorem guarded_step {s : Page} (guarded : LoadingGuard Request.isImport s.inFlight s.loading)
    {e : Event} (allowed : enabled s e) :
    LoadingGuard Request.isImport (step s e).inFlight (step s e).loading := by
  cases e with
  | debounce =>
      simp only [step, debounce]
      split
      · exact guarded
      · exact guarded.append_other rfl
  | submit =>
      simp only [enabled, Bool.and_eq_true, Bool.not_eq_true', decide_eq_true_eq] at allowed
      obtain ⟨⟨⟨-, free⟩, -⟩, -⟩ := allowed
      simp only [step, submit]
      split
      · exact guarded
      · exact guarded.send free _
  | reply index answer =>
      obtain ⟨request, found⟩ : ∃ request, s.inFlight.get? index = some request :=
        ⟨_, List.get?_eq_get (by simpa [enabled] using allowed)⟩
      rw [step_reply found]
      cases request with
      | search term => cases answer <;> exact guarded.answer_other found rfl
      | importTask body => cases answer <;> exact guarded.answer_busy found rfl false
  | _ => exact guarded

/-- The import task is sent once: while it is unanswered the page is loading, which disables the
submit button. -/
theorem import_loading_while_pending {s : Page} (reach : machine.Reachable init s) :
    s.inFlight.countP Request.isImport ≤ 1 ∧
      (0 < s.inFlight.countP Request.isImport → s.loading) := by
  obtain ⟨single, loading⟩ := Machine.Reachable.induction machine reach
    (fun s => LoadingGuard Request.isImport s.inFlight s.loading) (.of_idle rfl)
    fun _ _ guarded allowed => guarded_step guarded allowed
  exact ⟨single, loading⟩

/-- A user the search finds. -/
def pickedUser : JsValue := .obj [("ID", .num 2), ("Nick", .str "admin")]
/-- Fills in both paths, finds and picks `pickedUser`, and submits. -/
def importForUser : List Event :=
  [.src "/", .dst "/", .typeUser "admin", .debounce,
    .reply 0 (.ok (.obj [("items", .arr [pickedUser])])),
    .selectUser 0, .submit]
/-- The page once `importForUser` has submitted the task. -/
def importSubmitted : Page := (machine.run init importForUser).getD init

theorem importSubmitted_loading :
    importSubmitted.inFlight.countP Request.isImport ≤ 1 ∧
      (0 < importSubmitted.inFlight.countP Request.isImport → importSubmitted.loading) :=
  import_loading_while_pending ⟨importForUser, rfl⟩
example :
    importSubmitted.inFlight.countP Request.isImport = 1 ∧ importSubmitted.loading = true := by
  decide

/-! ## Replies in the order of the requests -/

/-- The term of a search request. -/
def searchTerm : Request → Option String
  | .search term => some term
  | .importTask _ => none

/-- A reply that answers the oldest request in flight and succeeds. -/
def inOrder : Event → Bool
  | .reply index (.ok _) => index = 0
  | .reply _ (.fail _) => false
  | _ => true

/-- The page when the server answers every request, in the order the requests were sent. -/
def orderly : Machine Page Event :=
  machine.restrict fun _ e => inOrder e

/-- A debounced term that is not empty was searched for last; the last search in flight is the
last one sent; with none in flight, the users on screen answer the last one sent. -/
structure Settled (s : Page) : Prop where
  current : s.debounced ≠ "" → s.lastSent = some s.debounced
  pending : ∀ term, latest searchTerm s.inFlight = some term → s.lastSent = some term
  shown : latest searchTerm s.inFlight = none → s.shownFor = s.lastSent

theorem settled_step {s : Page} (settled : Settled s) {e : Event} (allowed : enabled s e)
    (ordered : inOrder e) : Settled (step s e) := by
  obtain ⟨current, pending, shown⟩ := settled
  cases e with
  | debounce =>
      simp only [step, debounce]
      split
      · exact ⟨fun typed => absurd ‹_› typed, pending, shown⟩
      · exact ⟨fun _ => rfl, by simp [searchTerm], by simp [searchTerm]⟩
  | submit =>
      simp only [step, submit]
      split
      · exact ⟨current, pending, shown⟩
      · exact ⟨current, by simpa [searchTerm] using pending, by simpa [searchTerm] using shown⟩
  | reply index answer =>
      cases answer with
      | fail => simp [inOrder] at ordered
      | ok data =>
          simp only [inOrder, decide_eq_true_eq] at ordered
          subst ordered
          obtain ⟨request, rest, split⟩ :=
            List.exists_cons_of_length_pos (by simpa [enabled] using allowed)
          have found : s.inFlight.get? 0 = some request := by simp [split]
          rw [step_reply found]
          simp only [split, List.eraseIdx_cons_zero]
          cases request with
          | search term =>
              refine ⟨current, fun later found => pending later ?_, fun idle => ?_⟩
              · simp only [receive_inFlight] at found
                simp [split, found]
              simp only [receive] at idle ⊢
              exact (pending term (by simp [split, idle, searchTerm])).symm
          | importTask body =>
              exact ⟨current,
                fun later found => pending later (by simpa [split, searchTerm] using found),
                fun idle => shown (by simpa [split, searchTerm] using idle)⟩
  | _ => exact ⟨current, pending, shown⟩

theorem settled_of_orderly {s : Page} (reach : orderly.Reachable init s) : Settled s :=
  Machine.Reachable.induction orderly reach Settled
    ⟨fun typed => absurd rfl typed, fun _ found => by simp [init] at found, fun _ => rfl⟩
    fun _ _ settled allowed => by
      simp only [orderly, Machine.restrict, Bool.and_eq_true] at allowed
      exact settled_step settled allowed.1 allowed.2

/-- When the server answers the requests in order, the users on screen answer the search for the
debounced term whenever that term is not empty and no search is in flight. -/
theorem users_for_debounced {s : Page} (reach : orderly.Reachable init s)
    (idle : ∀ term, .search term ∉ s.inFlight) (typed : s.debounced ≠ "") :
    s.shownFor = some s.debounced := by
  have settled := settled_of_orderly reach
  rw [settled.shown (latest_eq_none _ fun request mem => ?_), settled.current typed]
  cases request with
  | search term => exact absurd mem (idle term)
  | importTask _ => rfl

/-! ## Against a server -/

/-- An event of a run against a server that answers the search for `term` with `server term`:
a successful reply to a search carries the server's answer, whatever data the event names. -/
def serve (server : String → JsValue) (s : Page) : Event → Event
  | .reply index (.ok data) =>
      match s.inFlight.get? index with
      | some (.search term) => .reply index (.ok (server term))
      | _ => .reply index (.ok data)
  | e => e

/-- The page when the server answers every request in order and succeeds, each search with its
answer for the term. -/
def servedInOrder (server : String → JsValue) : Machine Page Event :=
  orderly.comap (serve server)

/-- The users on screen are the items of the server's answer for the term they answer. -/
def Answered (server : String → JsValue) (s : Page) : Prop :=
  ∀ term, s.shownFor = some term → s.users = (server term).get "items"

theorem answered_step {server : String → JsValue} {s : Page} (answered : Answered server s)
    (e : Event) : Answered server (step s (serve server s e)) := by
  cases e with
  | debounce =>
      simp only [serve, step, debounce]
      split <;> exact answered
  | submit =>
      simp only [serve, step, submit]
      split <;> exact answered
  | reply index answer =>
      cases found : s.inFlight.get? index with
      | none => cases answer <;> simp only [serve, step, found] <;> exact answered
      | some request =>
          cases request <;> cases answer <;> simp only [serve, found, step_reply found, receive]
          case search.ok term _ => exact fun _ shown => by cases Option.some.inj shown; rfl
          all_goals exact answered
  | _ => exact answered

/-- When the server answers in order and succeeds, the users on screen are the items of its
answer for the debounced term whenever that term is not empty and no search is in flight. -/
theorem users_from_server {server : String → JsValue} {s : Page}
    (reach : (servedInOrder server).Reachable init s)
    (idle : ∀ term, .search term ∉ s.inFlight) (typed : s.debounced ≠ "") :
    s.users = (server s.debounced).get "items" := by
  have answered := Machine.Reachable.induction (servedInOrder server) reach (Answered server)
    (fun _ shown => by simp [init] at shown) fun s e answered _ => answered_step answered e
  exact answered _ (users_for_debounced reach.of_comap idle typed)

/-- Two searches whose replies arrive in the opposite order. -/
def searchTwice : List Event :=
  [.typeUser "a", .debounce, .typeUser "ab", .debounce,
    .reply 1 (.ok (.obj [("items", .arr [])])),
    .reply 0 (.ok (.obj [("items", .arr [pickedUser])]))]

end Import

end CloudreveAdmin
