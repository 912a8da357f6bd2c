import CloudreveAdmin.Group.Session

/-!
# The group editor as a whole

`EditGroupPreload` renders `{group.ID !== undefined && <GroupForm group={group} />}`. The form
takes `props.group` into its own state when it mounts, and React keeps that state for as long
as the element stays rendered: a later `setGroup` of the page changes `props.group` but not
what the form shows and saves. The form unmounts only when the group loses its `ID`, which the
route's effect does with `setGroup({})`.

So the record the administrator edits is the first one converted after the last route change,
not the last one. Against a server that answers each load of an ID with a fixed record
(`served`), and when the administrator opens another group only once the load in flight has
been answered, the form holds the conversion of the route's record after the administrator's
edits through its inputs (`form_for_route`), and every save it sends posts that record after
such edits (`saves_route_record`). Otherwise even replies in the order of the requests leave
the form on the previous group, while the page's state holds the route's.
-/

namespace CloudreveAdmin

namespace GroupEditor

open EditGroupPreload

/-- The route's page and the form it renders. -/
structure Page where
  preload : Preload
  form : Option GroupForm.Session

/-- `group.ID !== undefined`. -/
def hasID (group : JsValue) : Bool :=
  !(group.get "ID").isUndefined

/-- The render after the page's state became `preload`: the form unmounts when the group has no
`ID`, mounts on the group when it was not rendered, and keeps its own state otherwise. -/
def render (s : Page) (preload : Preload) : Page :=
  if hasID preload.group then
    match s.form with
    | some form => { preload := preload, form := some form }
    | none => { preload := preload, form := some (GroupForm.init true preload.group) }
  else { preload := preload, form := none }

/-- The editor as it opens on the route of `id`. -/
def init (id : String) : Page where
  preload := EditGroupPreload.init id
  form := none

/-- An event of the page, or one of the form while it is rendered. -/
inductive Event where
  | page (e : EditGroupPreload.Event)
  | form (e : GroupForm.Event)

/-- Whether the form has moved to the list of groups, which unmounts the whole editor. -/
def Page.left (s : Page) : Bool :=
  (s.form.map (·.left)).getD false

/-- The events the editor allows. -/
def enabled (s : Page) : Event → Bool
  | .page e => !s.left && EditGroupPreload.enabled s.preload e
  | .form e =>
      match s.form with
      | some form => GroupForm.enabled form e
      | none => false

/-- What an event does. -/
def step (codec : JsonCodec) (s : Page) : Event → Page
  | .page e => render s (EditGroupPreload.step codec s.preload e)
  | .form e =>
      match s.form with
      | some form => { s with form := some (GroupForm.step codec form e) }
      | none => s

/-- The editor as a transition system. -/
def machine (codec : JsonCodec) : Machine Page Event where
  enabled := enabled
  step := step codec

/-- The editor when the administrator changes the route only once no load is in flight. -/
def patient (codec : JsonCodec) : Machine Page Event :=
  (machine codec).restrict fun s e =>
    match e with
    | .page (.route _) => s.preload.inFlight.isEmpty
    | _ => true

/-- An event of a run against a server that answers the load of `id` with `records id`. -/
def serve (records : String → JsValue) (s : Page) : Event → Event
  | .page e => .page (EditGroupPreload.serve records s.preload e)
  | .form e => .form e

/-- The patient editor against a server that answers each load of `id` with `records id`, in
any order. -/
def served (codec : JsonCodec) (records : String → JsValue) : Machine Page Event :=
  (patient codec).comap (serve records)

@[simp]
theorem hasID_obj_nil : hasID (.obj []) = false := rfl

@[simp]
theorem render_preload (s : Page) (preload : Preload) : (render s preload).preload = preload := by
  unfold render
  split
  · split <;> rfl
  · rfl

/-- A render shows the form only on a group with an `ID`. -/
theorem render_rendered (s : Page) (preload : Preload) :
    (render s preload).form.isSome → hasID preload.group := by
  unfold render
  split
  · exact fun _ => ‹_›
  · intro unmounted
    simp at unmounted

/-- A form rendered by a page that had none is mounted on the page's group. -/
theorem render_fresh {s : Page} {preload : Preload} (unrendered : s.form = none)
    {form : GroupForm.Session} (mounted : (render s preload).form = some form) :
    form = GroupForm.init true preload.group := by
  unfold render at mounted
  rw [unrendered] at mounted
  split at mounted
  · exact (Option.some.inj mounted).symm
  · cases mounted

/-- Opening another group empties the page's group, which unmounts the form. -/
theorem step_route (codec : JsonCodec) (s : Page) (id : String) :
    step codec s (.page (.route id)) =
      { preload := EditGroupPreload.step codec s.preload (.route id), form := none } := by
  simp [step, render, EditGroupPreload.step]

theorem step_form {codec : JsonCodec} {s : Page} {form : GroupForm.Session}
    (rendered : s.form = some form) (e : GroupForm.Event) :
    step codec s (.form e) = { s with form := some (GroupForm.step codec form e) } := by
  simp only [step, rendered]

/-! ### What the form edits and saves -/

/-- `group` is `loaded` after edits through the form's inputs. -/
def EditedFrom (loaded group : JsValue) : Prop :=
  ∃ edits : List GroupForm.Edit, (∀ e ∈ edits, e.Wired) ∧ group = GroupForm.applyEdits edits loaded

theorem EditedFrom.refl (loaded : JsValue) : EditedFrom loaded loaded :=
  ⟨[], fun _ mem => absurd mem (List.not_mem_nil _), rfl⟩

theorem EditedFrom.apply {loaded group : JsValue} (edited : EditedFrom loaded group)
    {e : GroupForm.Edit} (wired : e.Wired) : EditedFrom loaded (e.apply group) := by
  obtain ⟨edits, allWired, rfl⟩ := edited
  refine ⟨edits ++ [e], fun e' mem => ?_, by simp [GroupForm.applyEdits]⟩
  rcases List.mem_append.mp mem with old | new
  · exact allWired e' old
  · exact List.mem_singleton.mp new ▸ wired

/-- The form holds `loaded` after edits through its inputs, and each save in flight posts such a
group. -/
structure SavesFrom (codec : JsonCodec) (loaded : JsValue) (form : GroupForm.Session) : Prop where
  edited : EditedFrom loaded form.group
  posted : ∀ body ∈ form.inFlight,
    ∃ group, EditedFrom loaded group ∧ GroupForm.submitBody codec group = .ok body

theorem savesFrom_init (codec : JsonCodec) (loaded : JsValue) :
    SavesFrom codec loaded (GroupForm.init true loaded) :=
  ⟨.refl loaded, fun _ mem => by cases mem⟩

theorem SavesFrom.step {codec : JsonCodec} {loaded : JsValue} {form : GroupForm.Session}
    (saves : SavesFrom codec loaded form) {e : GroupForm.Event}
    (allowed : GroupForm.enabled form e) :
    SavesFrom codec loaded (GroupForm.step codec form e) := by
  obtain ⟨edited, posted⟩ := saves
  cases e with
  | edit e =>
      simp only [GroupForm.enabled, Bool.and_eq_true, decide_eq_true_eq] at allowed
      exact ⟨edited.apply allowed.2, posted⟩
  | submit =>
      simp only [GroupForm.step, GroupForm.submit]
      split
      · rename_i body sent
        refine ⟨edited, fun posting mem => ?_⟩
        rcases List.mem_append.mp mem with old | new
        · exact posted posting old
        · exact ⟨form.group, edited, List.mem_singleton.mp new ▸ sent⟩
      · exact ⟨edited, posted⟩
  | reply index answer =>
      cases answer <;>
        exact ⟨edited, fun posting mem => posted posting (List.mem_of_mem_eraseIdx mem)⟩

/-- The served, patient editor's invariant: the loads in flight are for the route's `id`, at most
one and none while the form is rendered; a group with an `ID` answers the route's load and is
the conversion of the server's record for the ID it answers; and a rendered form edits and saves
that group. -/
structure Editing (codec : JsonCodec) (records : String → JsValue) (s : Page) : Prop where
  loads : ∀ id ∈ s.preload.inFlight, id = s.preload.id
  shown : hasID s.preload.group → s.preload.shownFor = some s.preload.id
  rendered : s.form.isSome → hasID s.preload.group
  answered : Answered codec records s.preload
  single : s.preload.inFlight.length ≤ 1
  idle : s.form.isSome → s.preload.inFlight = []
  saves : ∀ form, s.form = some form → SavesFrom codec s.preload.group form

theorem editing_init (codec : JsonCodec) (records : String → JsValue) (id : String) :
    Editing codec records (init id) where
  loads _ mem := List.mem_singleton.mp mem
  shown identified := by simp [init, EditGroupPreload.init] at identified
  rendered mounted := by simp [init] at mounted
  answered _ shown := by simp [init, EditGroupPreload.init] at shown
  single := by simp [init, EditGroupPreload.init]
  idle mounted := by simp [init] at mounted
  saves _ mounted := by simp [init] at mounted

/-- A render that mounts a fresh form on an answered, idle state keeps the invariant. -/
theorem editing_render {codec : JsonCodec} {records : String → JsValue} {s : Page}
    {preload : Preload} (unrendered : s.form = none) (idle : preload.inFlight = [])
    (shown : hasID preload.group → preload.shownFor = some preload.id)
    (answered : Answered codec records preload) : Editing codec records (render s preload) where
  loads _ mem := by simp [idle] at mem
  shown := by simpa using shown
  rendered := by simpa using render_rendered s preload
  answered := by simpa using answered
  single := by simp [idle]
  idle _ := by simp [idle]
  saves form mounted := by
    rw [render_fresh unrendered mounted, render_preload]
    exact savesFrom_init codec _

theorem editing_step {codec : JsonCodec} {records : String → JsValue} {s : Page}
    (editing : Editing codec records s) {e : Event}
    (allowed : (served codec records).enabled s e) :
    Editing codec records ((served codec records).step s e) := by
  obtain ⟨loads, shown, rendered, answered, single, idle, saving⟩ := editing
  simp only [served, Machine.comap, patient, machine, Machine.restrict, Bool.and_eq_true]
    at allowed ⊢
  obtain ⟨allowed, waits⟩ := allowed
  cases e with
  | form e =>
      simp only [serve] at allowed ⊢
      cases mounted : s.form with
      | none => simp [enabled, mounted] at allowed
      | some form =>
          simp only [enabled, mounted] at allowed
          rw [step_form mounted]
          refine ⟨loads, shown, fun _ => rendered (by simp [mounted]), answered, single,
            fun _ => idle (by simp [mounted]), fun form' remounted => ?_⟩
          obtain rfl := Option.some.inj remounted
          exact (saving form mounted).step allowed
  | page e =>
      have answered' := answered_step answered e
      cases e with
      | route id =>
          simp only [serve, serve_route] at waits answered' ⊢
          have none : s.preload.inFlight = [] := by simpa using waits
          rw [step_route]
          exact ⟨fun x mem => by simpa [EditGroupPreload.step, none] using mem,
            fun identified => by simp [EditGroupPreload.step] at identified,
            fun mounted => by simp at mounted, answered', by simp [EditGroupPreload.step, none],
            fun mounted => by simp at mounted, fun _ mounted => by simp at mounted⟩
      | reply index answer =>
          obtain ⟨reply, translated⟩ := serve_reply records s.preload index answer
          simp only [serve, translated] at allowed answered' ⊢
          simp only [enabled, Bool.and_eq_true, EditGroupPreload.enabled,
            decide_eq_true_eq] at allowed
          have unrendered : s.form = none := by
            cases mounted : s.form with
            | none => rfl
            | some form => simp [idle (by simp [mounted])] at allowed
          have answeredID := loads _ (List.get_mem s.preload.inFlight index allowed.2)
          obtain ⟨sameID, inFlight, outcome⟩ :=
            reply_cases codec s.preload (List.get?_eq_get allowed.2) reply
          show Editing codec records (render s _)
          refine editing_render unrendered ?_ ?_ answered'
          · rw [inFlight, ← List.length_eq_zero, List.length_eraseIdx_of_lt allowed.2]
            omega
          · rcases outcome with ⟨kept, keptShown⟩ | shownNow
            · rw [kept, keptShown, sameID]
              exact shown
            · rw [shownNow, sameID, answeredID]
              exact fun _ => rfl

theorem editing_of_served {codec : JsonCodec} {records : String → JsValue} {id : String}
    {s : Page} (reach : (served codec records).Reachable (init id) s) :
    Editing codec records s :=
  Machine.Reachable.induction (served codec records) reach (Editing codec records)
    (editing_init codec records id) fun _ _ editing allowed => editing_step editing allowed

/-- Against a server that answers each load of an ID with a fixed record, and when the
administrator opens another group only once the load in flight has been answered, the form the
page renders holds the conversion of the server's record for the route's `id`, after edits
through the form's inputs. -/
theorem form_for_route {codec : JsonCodec} {records : String → JsValue} {id : String}
    {s : Page} (reach : (served codec records).Reachable (init id) s)
    {form : GroupForm.Session} (rendered : s.form = some form) :
    ∃ loaded, EditGroupPreload.convert codec (records s.preload.id) = .ok loaded ∧
      EditedFrom loaded form.group := by
  have editing := editing_of_served reach
  have identified := editing.rendered (by simp [rendered])
  exact ⟨_, editing.answered _ (editing.shown identified), (editing.saves form rendered).edited⟩

/-- In the same runs, every save in flight posts `submit`'s conversion of the server's record for
the route's `id` after edits through the form's inputs. -/
theorem saves_route_record {codec : JsonCodec} {records : String → JsValue} {id : String}
    {s : Page} (reach : (served codec records).Reachable (init id) s)
    {form : GroupForm.Session} (rendered : s.form = some form) :
    ∀ body ∈ form.inFlight, ∃ loaded group,
      EditGroupPreload.convert codec (records s.preload.id) = .ok loaded ∧
        EditedFrom loaded group ∧ GroupForm.submitBody codec group = .ok body := by
  have editing := editing_of_served reach
  have identified := editing.rendered (by simp [rendered])
  intro body sent
  obtain ⟨group, edited, posted⟩ := (editing.saves form rendered).posted body sent
  exact ⟨_, group, editing.answered _ (editing.shown identified), edited, posted⟩

/-- A group record as `GET /admin/group/:id` returns it for the group `id`. -/
def recordOf (id : Nat) : JsValue :=
  .obj [("ID", .num id), ("Name", .str "group"), ("PolicyList", .arr [.num 1]),
    ("MaxStorage", .num 0), ("ShareEnabled", .bool true), ("WebDAVEnabled", .bool false),
    ("SpeedLimit", .num 0), ("OptionsSerialized", .obj [])]

/-- A server that holds groups 1 and 2. -/
def groupRecords : String → JsValue
  | "1" => recordOf 1
  | "2" => recordOf 2
  | _ => .obj []

/-- The editor on group 1 once its record has arrived. -/
def firstLoaded : Page :=
  ((served JsonText.textCodec groupRecords).run (init "1") [.page (.reply 0 (.ok .null))]).getD
    (init "1")

theorem firstLoaded_for_route :
    ∃ form, firstLoaded.form = some form ∧ ∃ loaded,
      EditGroupPreload.convert JsonText.textCodec (groupRecords firstLoaded.preload.id) =
        .ok loaded ∧ EditedFrom loaded form.group :=
  ⟨_, rfl, form_for_route ⟨[.page (.reply 0 (.ok .null))], rfl⟩ rfl⟩

/-- Group 1's record arrives, the administrator types a new name and clicks 儲存. -/
def renameFirst : List Event :=
  [.page (.reply 0 (.ok .null)), .form (.edit (.change "Name" (.str "admins"))), .form .submit]

/-- The editor on group 1 with the renamed group's save in flight. -/
def renamed : Page :=
  ((served JsonText.textCodec groupRecords).run (init "1") renameFirst).getD (init "1")

theorem renamed_saves_record :
    ∃ form, renamed.form = some form ∧ form.inFlight ≠ [] ∧
      ∀ body ∈ form.inFlight, ∃ loaded group,
        EditGroupPreload.convert JsonText.textCodec (groupRecords renamed.preload.id) =
          .ok loaded ∧ EditedFrom loaded group ∧
          GroupForm.submitBody JsonText.textCodec group = .ok body :=
  ⟨_, rfl, List.cons_ne_nil _ _,
    @saves_route_record JsonText.textCodec groupRecords "1" renamed ⟨renameFirst, rfl⟩ _ rfl⟩

/-- The route moves to group 2 before group 1 has loaded, and the server answers both loads in
order: the page's state holds group 2, but the form stays on group 1. -/
example :
    ∃ s, ((machine JsonText.textCodec).comap (serve groupRecords)).run (init "1")
        [.page (.route "2"), .page (.reply 0 (.ok .null)), .page (.reply 0 (.ok .null))] =
          some s ∧
      s.preload.inFlight = [] ∧ s.preload.id = "2" ∧
      EditGroupPreload.convert JsonText.textCodec (groupRecords "2") = .ok s.preload.group ∧
      (s.form.map fun form => form.group.get "ID") = some (.num 1) :=
  ⟨_, rfl, rfl, rfl, rfl, rfl⟩

end GroupEditor

end CloudreveAdmin
