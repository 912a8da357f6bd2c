import CloudreveAdmin.Group.Form
import CloudreveAdmin.Machine

/-!
# Loading and saving a group

`EditGroupPreload` loads the group of the route's `id`: its effect on `[id]` empties the group
and sends `GET /admin/group/:id`, and the reply, once converted, becomes the group the form
edits. `GroupForm.submit` posts the converted group to `/admin/group` and disables its button
until the server answers; on success the page moves to the list of groups.

Both are transition systems over the requests in flight. A record in a reply becomes a group
that converts back to it (`receive_record`), and the submit handler either sends the converted
group or only warns, as `JSON.parse` decides on the Aria2 options (`submit_outcome`). The
state of `EditGroupPreload` records two facts about the run that the component does not keep:
`shownFor`, the ID whose record is on screen, and `lastSent`, the ID of the request sent last.
`servedInOrder` runs the page against a server that answers each load of an ID with a fixed
record; there the group on screen is the conversion of the route's record
(`group_from_server`).

`GroupForm.enabled` lets 儲存 through whenever the form is neither loading nor left. The
browser's check of the `required` inputs (the name, the initial size, the speed limit), which
keeps the form from being submitted while one is empty, is left out, and so are the inputs the
page hides for the guest group; the model allows more runs than the page, so what it proves of
every run holds of the page's. The list of policies that `GroupForm` loads for its select is
left out too: it only names the choices of the select.
-/

namespace CloudreveAdmin

namespace EditGroupPreload

/-- The server's answer: `response.data`, or the error the API layer rejects with. -/
inductive Reply where
  | ok (data : JsValue)
  | fail (message : String)

/-- The state of the page: the route's `id`, the converted group, and the IDs of the requests
in flight. -/
structure Preload where
  id : String
  group : JsValue
  notice : Option Notice
  inFlight : List String
  shownFor : Option String
  lastSent : Option String

/-- The page as it opens on the route of `id`, its effect having sent the request. -/
def init (id : String) : Preload where
  id := id
  group := .obj []
  notice := none
  inFlight := [id]
  shownFor := none
  lastSent := some id

/-- The route changes to another group, or the server answers the request at `index`. -/
inductive Event where
  | route (id : String)
  | reply (index : Nat) (answer : Reply)

/-- The events the page allows. -/
def enabled (s : Preload) : Event → Bool
  | .route id => id ≠ s.id
  | .reply index _ => index < s.inFlight.length

/-- What the `.then` and `.catch` of the request for `id` do with its reply. A `TypeError` in
the conversion rejects the promise, so the `.catch` shows it. -/
def receive (codec : JsonCodec) (s : Preload) (id : String) : Reply → Preload
  | .ok data =>
      match convert codec data with
      | .ok loaded => { s with group := loaded, shownFor := some id }
      | .error message => { s with notice := some ⟨message, "error"⟩ }
  | .fail message => { s with notice := some ⟨message, "error"⟩ }

/-- What an event does. -/
def step (codec : JsonCodec) (s : Preload) : Event → Preload
  | .route id =>
      { s with id := id, group := .obj [], shownFor := none, inFlight := s.inFlight ++ [id],
               lastSent := some id }
  | .reply index answer =>
      match s.inFlight.get? index with
      | some id => receive codec { s with inFlight := s.inFlight.eraseIdx index } id answer
      | none => s

/-- The page as a transition system. -/
def machine (codec : JsonCodec) : Machine Preload Event where
  enabled := enabled
  step := step codec

theorem step_reply {codec : JsonCodec} {s : Preload} {index : Nat} {id : String}
    (found : s.inFlight.get? index = some id) (answer : Reply) :
    step codec s (.reply index answer) =
      receive codec { s with inFlight := s.inFlight.eraseIdx index } id answer := by
  simp only [step, found]

/-- Everything a reply does: it answers its request, keeps the route's `id`, and either shows
the converted record of the request's ID or leaves the group and `shownFor` as they were. -/
theorem reply_cases (codec : JsonCodec) (s : Preload) {index : Nat} {id : String}
    (found : s.inFlight.get? index = some id) (answer : Reply) :
    (step codec s (.reply index answer)).id = s.id ∧
      (step codec s (.reply index answer)).inFlight = s.inFlight.eraseIdx index ∧
      (((step codec s (.reply index answer)).group = s.group ∧
          (step codec s (.reply index answer)).shownFor = s.shownFor) ∨
        (step codec s (.reply index answer)).shownFor = some id) := by
  rw [step_reply found]
  cases answer with
  | ok data =>
      simp only [receive]
      split
      · exact ⟨rfl, rfl, .inr rfl⟩
      · exact ⟨rfl, rfl, .inl ⟨rfl, rfl⟩⟩
  | fail message => exact ⟨rfl, rfl, .inl ⟨rfl, rfl⟩⟩

open GroupForm in
/-- A record in the reply becomes the group the form edits, and the form's values convert back
to the record's: every field but the options and the policy list, the first policy, and every
option, an absent Aria2 option giving the empty object. -/
theorem receive_record (codec : JsonCodec) (s : Preload) (id : String) {g : JsValue}
    (record : GroupRecord g) :
    ∃ loaded, receive codec s id (.ok g) = { s with group := loaded, shownFor := some id } ∧
      (∀ k, k ≠ "OptionsSerialized" → k ≠ "PolicyList" → convertField k (loaded.get k) = g.get k) ∧
      (g.get "PolicyList").readIndex 0 = .ok (loaded.get "PolicyList") ∧
      ∀ k, convertOption codec k ((loaded.get "OptionsSerialized").get k) =
        some (if k = "aria2_options" ∧ ((g.get "OptionsSerialized").get k).isUndefined
          then .obj [] else (g.get "OptionsSerialized").get k) := by
  obtain ⟨loaded, converted, roundTrip⟩ := convert_roundTrip codec record
  exact ⟨loaded, by simp only [receive, converted], roundTrip⟩

open GroupForm in
theorem sampleGroup_reply_loads :
    ∃ loaded, receive JsonText.textCodec (init "2") "2" (.ok sampleGroup) =
        { init "2" with group := loaded, shownFor := some "2" } ∧
      (∀ k, k ≠ "OptionsSerialized" → k ≠ "PolicyList" →
        convertField k (loaded.get k) = sampleGroup.get k) ∧
      (sampleGroup.get "PolicyList").readIndex 0 = .ok (loaded.get "PolicyList") ∧
      ∀ k, convertOption JsonText.textCodec k ((loaded.get "OptionsSerialized").get k) =
        some (if k = "aria2_options" ∧ ((sampleGroup.get "OptionsSerialized").get k).isUndefined
          then .obj [] else (sampleGroup.get "OptionsSerialized").get k) :=
  receive_record JsonText.textCodec (init "2") "2" sampleGroup_record

/-! ### Replies in the order of the requests -/

/-- A reply that answers the oldest request in flight with a record the conversion accepts. -/
def inOrder (codec : JsonCodec) : Event → Bool
  | .route _ => true
  | .reply index (.ok data) => index = 0 && (convert codec data).toBool
  | .reply _ (.fail _) => false

/-- The page when the server answers every request, in order, with a record. -/
def orderly (codec : JsonCodec) : Machine Preload Event :=
  (machine codec).restrict fun _ e => inOrder codec e

/-- The last request sent is for the route's `id`, and so is the last one in flight; with none
in flight, the record on screen answers the last one sent. -/
structure Settled (s : Preload) : Prop where
  current : s.lastSent = some s.id
  pending : ∀ id, latest some s.inFlight = some id → s.lastSent = some id
  shown : s.inFlight = [] → s.shownFor = s.lastSent

theorem settled_step {codec : JsonCodec} {s : Preload} (settled : Settled s) {e : Event}
    (allowed : enabled s e) (ordered : inOrder codec e) : Settled (step codec s e) := by
  obtain ⟨current, pending, shown⟩ := settled
  cases e with
  | route id => exact ⟨rfl, by simp [step], by simp [step]⟩
  | reply index answer =>
      cases answer with
      | fail => simp [inOrder] at ordered
      | ok data =>
          simp only [inOrder, Bool.and_eq_true, decide_eq_true_eq] at ordered
          obtain ⟨rfl, converts⟩ := ordered
          obtain ⟨first, rest, split⟩ :=
            List.exists_cons_of_length_pos (by simpa [enabled] using allowed)
          have found : s.inFlight.get? 0 = some first := by simp [split]
          rw [step_reply found]
          cases converted : convert codec data with
          | error message => simp [converted, Except.toBool] at converts
          | ok loaded =>
              simp only [receive, converted, split, List.eraseIdx_cons_zero]
              refine ⟨current, fun later found => pending later (by simp [split, found]), ?_⟩
              rintro rfl
              exact (pending first (by simp [split])).symm

theorem settled_of_orderly {codec : JsonCodec} {id : String} {s : Preload}
    (reach : (orderly codec).Reachable (init id) s) : Settled s :=
  Machine.Reachable.induction (orderly codec) reach Settled
    ⟨rfl, fun _ found => by simpa [init] using found, fun idle => by simp [init] at idle⟩
    fun _ _ settled allowed => by
      simp only [orderly, Machine.restrict, Bool.and_eq_true] at allowed
      exact settled_step settled allowed.1 allowed.2

/-- When the server answers the requests in order and with records, the page shows the record
of the route's `id` once no request is in flight. -/
theorem group_for_route {codec : JsonCodec} {id : String} {s : Preload}
    (reach : (orderly codec).Reachable (init id) s) (idle : s.inFlight = []) :
    s.shownFor = some s.id := by
  have settled := settled_of_orderly reach
  rw [settled.shown idle, settled.current]

/-! ### Against a server -/

/-- An event of a run against a server that answers the load of `id` with `records id`: a
successful reply carries the server's record for its request, whatever data the event names. -/
def serve (records : String → JsValue) (s : Preload) : Event → Event
  | .reply index (.ok data) =>
      match s.inFlight.get? index with
      | some id => .reply index (.ok (records id))
      | none => .reply index (.ok data)
  | e => e

@[simp]
theorem serve_route (records : String → JsValue) (s : Preload) (id : String) :
    serve records s (.route id) = .route id := rfl

/-- A served reply answers the same request. -/
theorem serve_reply (records : String → JsValue) (s : Preload) (index : Nat) (answer : Reply) :
    ∃ served, serve records s (.reply index answer) = .reply index served := by
  cases answer with
  | ok data =>
      simp only [serve]
      split <;> exact ⟨_, rfl⟩
  | fail message => exact ⟨_, rfl⟩

/-- The page when the server answers every load in order with its record, which the conversion
accepts. -/
def servedInOrder (codec : JsonCodec) (records : String → JsValue) : Machine Preload Event :=
  (orderly codec).comap (serve records)

/-- The group on screen is the conversion of the server's record for the ID it answers. -/
def Answered (codec : JsonCodec) (records : String → JsValue) (s : Preload) : Prop :=
  ∀ id, s.shownFor = some id → convert codec (records id) = .ok s.group

theorem answered_step {codec : JsonCodec} {records : String → JsValue} {s : Preload}
    (answered : Answered codec records s) (e : Event) :
    Answered codec records (step codec s (serve records s e)) := by
  cases e with
  | route id => exact fun _ shown => by simp [serve, step] at shown
  | reply index answer =>
      cases found : s.inFlight.get? index with
      | none => cases answer <;> simp only [serve, step, found] <;> exact answered
      | some id =>
          cases answer <;> simp only [serve, found, step_reply found, receive]
          case ok data =>
              split
              · rename_i loaded converted
                exact fun _ shown => by cases Option.some.inj shown; exact converted
              · exact answered
          case fail message => exact answered

/-- When the server answers the loads in order with records the conversion accepts, the group on
screen is the conversion of the record of the route's `id` once no load is in flight. -/
theorem group_from_server {codec : JsonCodec} {records : String → JsValue} {id : String}
    {s : Preload} (reach : (servedInOrder codec records).Reachable (init id) s)
    (idle : s.inFlight = []) : convert codec (records s.id) = .ok s.group := by
  have answered := Machine.Reachable.induction (servedInOrder codec records) reach
    (Answered codec records) (fun _ shown => by simp [init] at shown)
    fun s e answered _ => answered_step answered e
  exact answered _ (group_for_route reach.of_comap idle)

end EditGroupPreload

namespace GroupForm

/-- The server's answer to `POST /admin/group`. -/
inductive Reply where
  | ok
  | fail (message : String)

/-- The state of the form: the group being edited and the bodies of the saves in flight. -/
structure Session where
  /-- Whether `props.group` was given. -/
  editing : Bool
  group : JsValue
  loading : Bool
  notice : Option Notice
  /-- The page has moved to the list of groups. -/
  left : Bool
  inFlight : List JsValue

/-- The form as it opens on a converted group. -/
def init (editing : Bool) (group : JsValue) : Session where
  editing := editing
  group := group
  loading := false
  notice := none
  left := false
  inFlight := []

/-- An input of the form, the submit button 儲存, or the server's reply to a save. -/
inductive Event where
  | edit (e : Edit)
  | submit
  | reply (index : Nat) (answer : Reply)

/-- The events the page allows: the inputs it renders, and the submit button while it is not
loading. -/
def enabled (s : Session) : Event → Bool
  | .edit e => !s.left && decide e.Wired
  | .submit => !s.left && !s.loading
  | .reply index _ => index < s.inFlight.length

/-- `submit`: the request, or the warning toast when `JSON.parse` rejects the Aria2 options,
the only way `submitBody` fails (`submitBody_error`). -/
def submit (codec : JsonCodec) (s : Session) : Session :=
  match submitBody codec s.group with
  | .ok body => { s with loading := true, inFlight := s.inFlight ++ [body] }
  | .error message => { s with notice := some ⟨message, "warning"⟩ }

/-- What an event does. -/
def step (codec : JsonCodec) (s : Session) : Event → Session
  | .edit e => { s with group := e.apply s.group }
  | .submit => submit codec s
  | .reply index .ok =>
      { s with inFlight := s.inFlight.eraseIdx index, left := true, loading := false,
               notice := some ⟨"使用者群組已" ++ (if s.editing then "儲存" else "添加"), "success"⟩ }
  | .reply index (.fail message) =>
      { s with inFlight := s.inFlight.eraseIdx index, loading := false,
               notice := some ⟨message, "error"⟩ }

/-- The form as a transition system. -/
def machine (codec : JsonCodec) : Machine Session Event where
  enabled := enabled
  step := step codec

/-- The submit handler sends the converted group exactly when `JSON.parse` accepts the text of
the Aria2 options (an absent option gives the text `undefined`, which it refuses); otherwise it
only shows the warning and sends nothing. -/
theorem submit_outcome (codec : JsonCodec) (s : Session) :
    if (convertOption codec "aria2_options"
        ((s.group.get "OptionsSerialized").get "aria2_options")).isSome then
      ∃ body, submitBody codec s.group = .ok body ∧
        step codec s .submit = { s with loading := true, inFlight := s.inFlight ++ [body] }
    else step codec s .submit = { s with notice := some ⟨"Aria2 設定項格式錯誤", "warning"⟩ } := by
  split
  · rename_i parses
    obtain ⟨body, posted⟩ := (submitBody_ok_iff codec s.group).mpr parses
    exact ⟨body, posted, by simp only [step, submit, posted]⟩
  · rename_i refused
    cases posted : submitBody codec s.group with
    | ok body => exact absurd ((submitBody_ok_iff codec s.group).mp ⟨body, posted⟩) refused
    | error message => simp only [step, submit, posted, submitBody_error posted]

/-! ### Saving -/

theorem guarded_step {codec : JsonCodec} {s : Session}
    (guarded : LoadingGuard (fun _ => true) s.inFlight s.loading) {e : Event}
    (allowed : enabled s e) :
    LoadingGuard (fun _ => true) (step codec s e).inFlight (step codec s e).loading := by
  cases e with
  | edit e => exact guarded
  | submit =>
      simp only [enabled, Bool.and_eq_true, Bool.not_eq_true'] at allowed
      simp only [step, submit]
      split
      · exact guarded.send allowed.2 _
      · exact guarded
  | reply index answer =>
      obtain ⟨request, found⟩ : ∃ request, s.inFlight.get? index = some request :=
        ⟨_, List.get?_eq_get (by simpa [enabled] using allowed)⟩
      cases answer <;> exact guarded.answer_busy found rfl false

/-- A save is sent once: while it is unanswered the form is loading, which disables the submit
button. -/
theorem save_loading_while_pending {codec : JsonCodec} {editing : Bool} {group : JsValue}
    {s : Session} (reach : (machine codec).Reachable (init editing group) s) :
    s.inFlight.length ≤ 1 ∧ (s.inFlight ≠ [] → s.loading) := by
  obtain ⟨single, loading⟩ := Machine.Reachable.induction (machine codec) reach
    (fun s => LoadingGuard (fun _ => true) s.inFlight s.loading) (.of_idle rfl)
    fun _ _ guarded allowed => guarded_step guarded allowed
  rw [List.countP_true] at single loading
  exact ⟨single, fun busy => loading (List.length_pos.mpr busy)⟩

/-- `sampleGroup` as `EditGroupPreload` hands it to the form. -/
def loadedSample : JsValue :=
  match EditGroupPreload.convert JsonText.textCodec sampleGroup with
  | .ok group => group
  | .error _ => .obj []

/-- The form on `loadedSample` once it has been submitted. -/
def savingSample : Session :=
  ((machine JsonText.textCodec).run (init true loadedSample) [.submit]).getD (init true .undefined)

theorem savingSample_loading :
    savingSample.inFlight.length ≤ 1 ∧ (savingSample.inFlight ≠ [] → savingSample.loading) :=
  save_loading_while_pending ⟨[.submit], rfl⟩

end GroupForm

end CloudreveAdmin
