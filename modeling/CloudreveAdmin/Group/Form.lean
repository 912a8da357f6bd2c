import CloudreveAdmin.Group.Convert
import CloudreveAdmin.Js.JsonText

/-!
# Editing a group

`GroupForm` keeps the converted record in its state and changes it through four handlers:
`handleChange` and `handleCheckChange` write a top-level field, `handleOptionCheckChange` and
`handleOptionChange` write a field of `OptionsSerialized`. The switches store the texts
`"true"` and `"false"`; the inputs store what they send. Each input of the form names one
field, so an edit writes exactly one field and a later edit of the same field wins.

`submit_after_edits` is the group editor's round trip: loading a record, editing it in any
way and saving it posts the record with each edited field replaced by `submit`'s conversion
of the last value entered for it. The one departure is an empty policy list that no edit
wrote, which is posted back as the list `[NaN]` (`submit_empty_policyList`).

`Edit.Wired` lists every input of the form. The page hides the inputs of the name, the policy,
the initial size, the two sharing switches and two option switches for the guest group
(`group.ID !== 3`), and the browser refuses to submit while a `required` input is empty; the
model lets those events through, so what it proves of every run holds of the runs the page
allows.
-/

namespace CloudreveAdmin

namespace GroupForm

/-- `handleChange(name)`: store what the input sends. -/
def handleChange (name : String) (value : JsValue) (group : JsValue) : JsValue :=
  group.set name value

/-- `handleCheckChange(name)`: store the switch's state as text. -/
def handleCheckChange (name : String) (checked : Bool) (group : JsValue) : JsValue :=
  handleChange name (JsValue.boolText checked) group

/-- `handleOptionChange(name)`: store what the input sends in the options. -/
def handleOptionChange (name : String) (value : JsValue) (group : JsValue) : JsValue :=
  group.setIn "OptionsSerialized" name value

/-- `handleOptionCheckChange(name)`: store the switch's state as text in the options. -/
def handleOptionCheckChange (name : String) (checked : Bool) (group : JsValue) : JsValue :=
  handleOptionChange name (JsValue.boolText checked) group

/-- The field an edit writes: a top-level one or one of the options. -/
inductive Target where
  | field (name : String)
  | option (name : String)
deriving DecidableEq

/-- One use of an input of the form: the handler it calls, the field it names and what it
sends. -/
inductive Edit where
  | change (name : String) (value : JsValue)
  | checkChange (name : String) (checked : Bool)
  | optionCheckChange (name : String) (checked : Bool)
  | optionChange (name : String) (value : JsValue)

namespace Edit

/-- The handler call. -/
def apply : Edit → JsValue → JsValue
  | change name value => handleChange name value
  | checkChange name checked => handleCheckChange name checked
  | optionCheckChange name checked => handleOptionCheckChange name checked
  | optionChange name value => handleOptionChange name value

/-- The inputs `GroupForm` renders, by the handler each one calls and the field it names. -/
def Wired : Edit → Prop
  | change name _ => name ∈ ["Name", "PolicyList", "MaxStorage", "SpeedLimit"]
  | checkChange name _ => name ∈ ["ShareEnabled", "WebDAVEnabled"]
  | optionCheckChange name _ =>
      name ∈ ["share_download", "one_time_download", "aria2", "archive_download", "archive_task"]
  | optionChange name _ => name ∈ ["aria2_options", "compress_size", "decompress_size"]

instance : DecidablePred Wired := fun e => by
  cases e <;> simp only [Wired] <;> infer_instance

/-- The field the edit writes. -/
def target : Edit → Target
  | change name _ | checkChange name _ => .field name
  | optionCheckChange name _ | optionChange name _ => .option name

/-- The value the edit stores. -/
def stored : Edit → JsValue
  | change _ value | optionChange _ value => value
  | checkChange _ checked | optionCheckChange _ checked => JsValue.boolText checked

theorem apply_get {e : Edit} (wired : e.Wired) (group : JsValue) {k : String}
    (notOptions : k ≠ "OptionsSerialized") :
    (e.apply group).get k = if e.target = .field k then e.stored else group.get k := by
  cases e with
  | change name value | checkChange name value =>
      have : name ≠ "OptionsSerialized" := by
        rintro rfl
        simp [Wired] at wired
      by_cases same : name = k
      · subst same
        simp [apply, handleCheckChange, handleChange, target, stored]
      · simp [apply, handleCheckChange, handleChange, target, Ne.symm same, same]
  | optionCheckChange name checked | optionChange name value =>
      simp [apply, handleOptionCheckChange, handleOptionChange, target, notOptions]

theorem apply_option {e : Edit} (wired : e.Wired) (group : JsValue) (k : String) :
    ((e.apply group).get "OptionsSerialized").get k =
      if e.target = .option k then e.stored else (group.get "OptionsSerialized").get k := by
  cases e with
  | change name value | checkChange name value =>
      have : name ≠ "OptionsSerialized" := by
        rintro rfl
        simp [Wired] at wired
      simp [apply, handleCheckChange, handleChange, target, Ne.symm this]
  | optionCheckChange name checked | optionChange name value =>
      by_cases same : name = k
      · subst same
        simp [apply, handleOptionCheckChange, handleOptionChange, target, stored]
      · simp [apply, handleOptionCheckChange, handleOptionChange, target, Ne.symm same, same]

end Edit

/-- The form state after a sequence of edits. -/
def applyEdits (edits : List Edit) (group : JsValue) : JsValue :=
  edits.foldl (fun group e => e.apply group) group

/-- The value the last edit of a field stored in it, if an edit wrote it. -/
def lastEntry : List Edit → Target → Option JsValue
  | [], _ => none
  | e :: es, t =>
      match lastEntry es t with
      | some v => some v
      | none => if e.target = t then some e.stored else none

theorem lastEntry_getD_cons (e : Edit) (es : List Edit) (t : Target) (x : JsValue) :
    (lastEntry (e :: es) t).getD x =
      (lastEntry es t).getD (if e.target = t then e.stored else x) := by
  simp only [lastEntry]
  cases lastEntry es t <;> by_cases hit : e.target = t <;> simp [hit]

theorem applyEdits_get {edits : List Edit} (wired : ∀ e ∈ edits, e.Wired) (group : JsValue)
    {k : String} (notOptions : k ≠ "OptionsSerialized") :
    (applyEdits edits group).get k = (lastEntry edits (.field k)).getD (group.get k) := by
  induction edits generalizing group with
  | nil => rfl
  | cons e es ih =>
      rw [lastEntry_getD_cons, ← Edit.apply_get (wired e (by simp)) group notOptions]
      exact ih (fun e' mem => wired e' (by simp [mem])) (e.apply group)

theorem applyEdits_option {edits : List Edit} (wired : ∀ e ∈ edits, e.Wired) (group : JsValue)
    (k : String) :
    ((applyEdits edits group).get "OptionsSerialized").get k =
      (lastEntry edits (.option k)).getD ((group.get "OptionsSerialized").get k) := by
  induction edits generalizing group with
  | nil => rfl
  | cons e es ih =>
      rw [lastEntry_getD_cons, ← Edit.apply_option (wired e (by simp)) group k]
      exact ih (fun e' mem => wired e' (by simp [mem])) (e.apply group)

/-- What a save posts for the record's value `x` of the top-level field `k` when no edit wrote
it: the value itself, but `[NaN]` for an empty policy list. -/
def unedited (k : String) (x : JsValue) : JsValue :=
  match k, x with
  | "PolicyList", .arr [] => .arr [.nan]
  | _, x => x

theorem unedited_of_ne {k : String} (notPolicy : k ≠ "PolicyList") (x : JsValue) :
    unedited k x = x := by
  unfold unedited
  split
  · exact absurd rfl notPolicy
  · rfl

/-- What the body posted after `edits` holds in the top-level field `k`: `submit`'s conversion of
the last value entered for it, or, when no edit wrote it, the record's own value, but `[NaN]`
for an empty policy list. -/
def editedField (g : JsValue) (edits : List Edit) (k : String) : JsValue :=
  match lastEntry edits (.field k) with
  | some v => convertField k v
  | none => unedited k (g.get k)

/-- What the body posted after `edits` holds in the option `k`, `none` when `JSON.parse` rejects
the entered Aria2 options; an absent `aria2_options` that no edit wrote becomes `{}`. -/
def editedOption (codec : JsonCodec) (g : JsValue) (edits : List Edit) (k : String) :
    Option JsValue :=
  match lastEntry edits (.option k) with
  | some v => convertOption codec k v
  | none => some (if k = "aria2_options" ∧ ((g.get "OptionsSerialized").get k).isUndefined
      then .obj [] else (g.get "OptionsSerialized").get k)

/-- Loading a group record, editing it through the form's inputs and saving posts the record
with each edited field replaced by the converted last value entered for it, and an unedited
empty policy list as `[NaN]`; `submit`'s conversion succeeds whenever the Aria2 options entered
last are JSON. -/
theorem submit_after_edits (codec : JsonCodec) {g : JsValue} (record : GroupRecord g)
    (edits : List Edit) (wired : ∀ e ∈ edits, e.Wired) :
    ∃ loaded, EditGroupPreload.convert codec g = .ok loaded ∧
      (∀ body, submitBody codec (applyEdits edits loaded) = .ok body →
        (∀ k, k ≠ "OptionsSerialized" → body.get k = editedField g edits k) ∧
        ∀ k, some ((body.get "OptionsSerialized").get k) = editedOption codec g edits k) ∧
      ((editedOption codec g edits "aria2_options").isSome →
        ∃ body, submitBody codec (applyEdits edits loaded) = .ok body) := by
  obtain ⟨loaded, converted, fields, policy, options⟩ :=
    EditGroupPreload.convert_roundTrip codec record
  have optionsAfter : ∀ k, convertOption codec k
      (((applyEdits edits loaded).get "OptionsSerialized").get k) =
        editedOption codec g edits k := by
    intro k
    rw [applyEdits_option wired, editedOption]
    cases lastEntry edits (.option k) with
    | some v => rfl
    | none => exact options k
  refine ⟨loaded, converted, fun body posted => ?_, fun parses => ?_⟩
  · obtain ⟨bodyFields, bodyOptions⟩ := submitBody_get posted
    refine ⟨fun k notOptions => ?_, fun k => (bodyOptions k).trans (optionsAfter k)⟩
    rw [bodyFields k notOptions, applyEdits_get wired _ notOptions, editedField]
    cases lastEntry edits (.field k) with
    | some v => rfl
    | none =>
        by_cases isPolicy : k = "PolicyList"
        · subst isPolicy
          rcases record.policyList with empty | ⟨id, single⟩
          · rw [empty] at policy ⊢
            injection policy with first
            simp [← first, convertField, unedited]
          · rw [single] at policy ⊢
            injection policy with first
            simp [← first, convertField, unedited]
        · rw [unedited_of_ne isPolicy]
          exact fields k notOptions isPolicy
  · rw [submitBody_ok_iff, optionsAfter]
    exact parses

/-- A group record as `GET /admin/group/:id` returns it, for a group whose page shows every
input. -/
def sampleGroup : JsValue :=
  .obj [("ID", .num 2), ("Name", .str "User"), ("PolicyList", .arr [.num 1]),
    ("MaxStorage", .num 1073741824), ("ShareEnabled", .bool true),
    ("WebDAVEnabled", .bool false), ("SpeedLimit", .num 0),
    ("OptionsSerialized", .obj [("archive_download", .bool true), ("aria2", .bool true),
      ("aria2_options", .obj [("max-tries", .num 5)])])]

theorem sampleGroup_record : GroupRecord sampleGroup where
  object := rfl
  shareEnabled := ⟨true, rfl⟩
  webDAVEnabled := ⟨false, rfl⟩
  maxStorage := ⟨1073741824, rfl, by norm_num⟩
  speedLimit := ⟨0, rfl, by norm_num⟩
  policyList := .inr ⟨1, rfl⟩
  options := rfl
  flags := by simp [flagOptions, sampleGroup, lookupField]
  sizes := by simp [sizeOptions, sampleGroup, lookupField]
  aria2 := .inr ⟨by simp [sampleGroup, lookupField, JsValue.IsJson, JsValue.AllJsonFields], rfl⟩

/-- The administrator renames the group and turns Aria2 off. -/
def sampleEdits : List Edit := [.change "Name" (.str "Admin"), .optionCheckChange "aria2" false]

theorem sampleGroup_edited_round_trip :
    ∃ loaded, EditGroupPreload.convert JsonText.textCodec sampleGroup = .ok loaded ∧
      (∀ body, submitBody JsonText.textCodec (applyEdits sampleEdits loaded) = .ok body →
        (∀ k, k ≠ "OptionsSerialized" → body.get k = editedField sampleGroup sampleEdits k) ∧
        ∀ k, some ((body.get "OptionsSerialized").get k) =
          editedOption JsonText.textCodec sampleGroup sampleEdits k) ∧
      ((editedOption JsonText.textCodec sampleGroup sampleEdits "aria2_options").isSome →
        ∃ body, submitBody JsonText.textCodec (applyEdits sampleEdits loaded) = .ok body) :=
  submit_after_edits JsonText.textCodec sampleGroup_record sampleEdits (by decide)

/-- A record with an empty policy list is posted back with the policy list `[NaN]`. -/
theorem submit_empty_policyList (codec : JsonCodec) {g : JsValue} (record : GroupRecord g)
    (empty : g.get "PolicyList" = .arr []) :
    ∃ loaded body, EditGroupPreload.convert codec g = .ok loaded ∧
      submitBody codec loaded = .ok body ∧ body.get "PolicyList" = .arr [.nan] := by
  obtain ⟨loaded, converted, -, policy, options⟩ := EditGroupPreload.convert_roundTrip codec record
  obtain ⟨body, posted⟩ := (submitBody_ok_iff codec loaded).mpr (by rw [options]; rfl)
  refine ⟨loaded, body, converted, posted, ?_⟩
  rw [(submitBody_get posted).1 _ (by decide)]
  rw [empty] at policy
  injection policy with first
  simp [← first, convertField]

/-- `sampleGroup` without a storage policy. -/
def noPolicyGroup : JsValue := sampleGroup.set "PolicyList" (.arr [])

/-- Saving `noPolicyGroup` without an edit posts a policy list it did not have. -/
theorem empty_policyList_posted_as_nan :
    noPolicyGroup.get "PolicyList" = .arr [] ∧
      ∃ loaded body, EditGroupPreload.convert JsonText.textCodec noPolicyGroup = .ok loaded ∧
        submitBody JsonText.textCodec loaded = .ok body ∧ body.get "PolicyList" = .arr [.nan] :=
  ⟨rfl, submit_empty_policyList JsonText.textCodec sampleGroup_record.withoutPolicy rfl⟩

end GroupForm

end CloudreveAdmin
