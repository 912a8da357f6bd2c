import CloudreveAdmin.Js.ParseInt
import CloudreveAdmin.Js.Json

/-!
# Group record conversions

The group editor works on a form state in which every field is text: `EditGroupPreload`
converts the record that `GET /admin/group/:id` returns before it hands it to `GroupForm`,
and `GroupForm.submit` converts the form state back before `POST /admin/group`. The two
files keep their own field lists and convert in opposite directions: booleans to the texts
`"true"` and `"false"` and back with `=== "true"`, integers with `toString` and back with
`parseInt`, the policy list to its first entry and back to a one-element list, and the Aria2
options with `JSON.stringify` and back with `JSON.parse`.

`convertField` and `convertOption` state field by field what `submit` makes of a value, and
`submitBody_get` proves that `submitBody` does exactly that; `loadField` and `loadOption` do
the same for the load conversion (`convert_stages`). On every record the server can send,
`submit`'s conversion undoes the load conversion field by field (`convertField_loadField`,
`convertOption_loadOption`), and `convert_roundTrip` assembles the record's round trip, with
two departures: an absent `aria2_options` comes back as the empty object, and an empty
policy list comes back as `[NaN]`, since `PolicyList[0]` of an empty list is `undefined`.
-/

namespace CloudreveAdmin

namespace EditGroupPreload

/-- What the load effect's response handler does to `response.data` before `setGroup`; an
exception it throws goes to the `.catch` toast instead. -/
def convert (codec : JsonCodec) (data : JsValue) : Except String JsValue := do
  -- 布林值轉換
  let data ← forEachField ["ShareEnabled", "WebDAVEnabled"]
    (fun _ x => pure (some (JsValue.boolText x.truthy))) data
  let options ← forEachField
    ["archive_download", "archive_task", "one_time_download", "share_download", "aria2"]
    (fun _ x => pure (if x.isUndefined then none else some (JsValue.boolText x.truthy)))
    (data.get "OptionsSerialized")
  -- 整型轉換
  let data ← forEachField ["MaxStorage", "SpeedLimit"] (fun _ x => some <$> x.callToString) data
  let options ← forEachField ["compress_size", "decompress_size"]
    (fun _ x => if x.isUndefined then pure none else some <$> x.callToString) options
  let data := data.set "PolicyList" (← (data.get "PolicyList").readIndex 0)
  -- JSON轉換
  let aria2 := options.get "aria2_options"
  let options := options.set "aria2_options"
    (.str (if aria2.isUndefined then "{}" else codec.stringify aria2))
  pure (data.set "OptionsSerialized" options)

end EditGroupPreload

namespace GroupForm

/-- The body `submit` posts to `/admin/group`, or the warning it shows instead of posting when
the Aria2 options are not JSON. -/
def submitBody (codec : JsonCodec) (group : JsValue) : Except String JsValue := do
  let options : JsValue := .obj (group.get "OptionsSerialized").fields
  let groupCopy := group.set "OptionsSerialized" options
  -- 布林值轉換
  let groupCopy ← forEachField ["ShareEnabled", "WebDAVEnabled"]
    (fun _ x => pure (some (.bool (x.eqStr "true")))) groupCopy
  let options ← forEachField
    ["archive_download", "archive_task", "one_time_download", "share_download", "aria2"]
    (fun _ x => pure (if x.isUndefined then none else some (.bool (x.eqStr "true")))) options
  -- 整型轉換
  let groupCopy ← forEachField ["MaxStorage", "SpeedLimit"]
    (fun _ x => pure (some (parseInt x))) groupCopy
  let options ← forEachField ["compress_size", "decompress_size"]
    (fun _ x => pure (if x.isUndefined then none else some (parseInt x))) options
  let groupCopy := groupCopy.set "PolicyList" (.arr [parseInt (groupCopy.get "PolicyList")])
  -- JSON轉換
  match codec.parse (options.get "aria2_options").toText with
  | none => .error "Aria2 設定項格式錯誤"
  | some aria2 => pure (groupCopy.set "OptionsSerialized" (options.set "aria2_options" aria2))

/-- The group options the two components store as switches. -/
def flagOptions : List String :=
  ["archive_download", "archive_task", "one_time_download", "share_download", "aria2"]

/-- The group options the two components store as sizes. -/
def sizeOptions : List String := ["compress_size", "decompress_size"]

/-- What `submit` makes of the value `x` of the top-level field `k` of the form state. -/
def convertField (k : String) (x : JsValue) : JsValue :=
  if k = "ShareEnabled" ∨ k = "WebDAVEnabled" then .bool (x.eqStr "true")
  else if k = "MaxStorage" ∨ k = "SpeedLimit" then parseInt x
  else if k = "PolicyList" then .arr [parseInt x]
  else x

/-- What `submit` makes of the value `x` of the option `k`; `none` when `JSON.parse` throws. -/
def convertOption (codec : JsonCodec) (k : String) (x : JsValue) : Option JsValue :=
  if k = "aria2_options" then codec.parse x.toText
  else if x.isUndefined then some x
  else if k ∈ flagOptions then some (.bool (x.eqStr "true"))
  else if k ∈ sizeOptions then some (parseInt x)
  else some x

theorem flagOptions_disjoint {k : String} (flag : k ∈ flagOptions) : k ∉ sizeOptions := by
  simp only [flagOptions, List.mem_cons, List.mem_singleton, List.not_mem_nil, or_false] at flag
  rcases flag with rfl | rfl | rfl | rfl | rfl <;> decide

theorem submitBody_stages (codec : JsonCodec) (group : JsValue) :
    ∃ copy options : JsValue, copy.isObject ∧ options.isObject ∧
      (∀ k, k ≠ "OptionsSerialized" → k ≠ "PolicyList" →
        copy.get k = convertField k (group.get k)) ∧
      copy.get "PolicyList" = group.get "PolicyList" ∧
      (∀ k, k ≠ "aria2_options" → some (options.get k) =
        convertOption codec k ((group.get "OptionsSerialized").get k)) ∧
      options.get "aria2_options" = (group.get "OptionsSerialized").get "aria2_options" ∧
      submitBody codec group =
        match codec.parse (options.get "aria2_options").toText with
        | none => .error "Aria2 設定項格式錯誤"
        | some aria2 => .ok ((copy.set "PolicyList" (.arr [parseInt (copy.get "PolicyList")])).set
            "OptionsSerialized" (options.set "aria2_options" aria2)) := by
  set options₀ : JsValue := .obj (group.get "OptionsSerialized").fields
  obtain ⟨c₁, e₁, o₁, f₁⟩ := forEachField_get ["ShareEnabled", "WebDAVEnabled"]
    (fun _ x => pure (some (.bool (x.eqStr "true")))) (by decide) (JsValue.isObject_set ..)
    (fun k => some (.bool (((group.set "OptionsSerialized" options₀).get k).eqStr "true")))
    (fun _ _ => rfl)
  obtain ⟨p₁, e₂, q₁, g₁⟩ := forEachField_get flagOptions
    (fun _ x => pure (if x.isUndefined then none else some (.bool (x.eqStr "true"))))
    (by decide) (JsValue.isObject_obj _)
    (fun k => if (options₀.get k).isUndefined then none
      else some (.bool ((options₀.get k).eqStr "true"))) (fun _ _ => rfl)
  obtain ⟨c₂, e₃, o₂, f₂⟩ := forEachField_get ["MaxStorage", "SpeedLimit"]
    (fun _ x => pure (some (parseInt x))) (by decide) o₁
    (fun k => some (parseInt (c₁.get k))) (fun _ _ => rfl)
  obtain ⟨p₂, e₄, q₂, g₂⟩ := forEachField_get sizeOptions
    (fun _ x => pure (if x.isUndefined then none else some (parseInt x))) (by decide) q₁
    (fun k => if (p₁.get k).isUndefined then none else some (parseInt (p₁.get k)))
    (fun _ _ => rfl)
  refine ⟨c₂, p₂, o₂, q₂, fun k notOptions notPolicy => ?_, ?_, fun k notAria2 => ?_, ?_, ?_⟩
  · rw [f₂, f₁]
    by_cases bools : k = "ShareEnabled" ∨ k = "WebDAVEnabled"
    · rcases bools with rfl | rfl <;> simp [convertField]
    · by_cases ints : k = "MaxStorage" ∨ k = "SpeedLimit"
      · rcases ints with rfl | rfl <;> simp [convertField]
      · simp_all [convertField]
  · simp [f₂, f₁]
  · rw [g₂, g₁]
    simp only [options₀, JsValue.get_obj_fields]
    cases undefined : ((group.get "OptionsSerialized").get k).isUndefined
    · by_cases flag : k ∈ flagOptions
      · have size : k ∉ sizeOptions := flagOptions_disjoint flag
        simp [flag, size, undefined, convertOption, notAria2]
      · by_cases size : k ∈ sizeOptions <;> simp [flag, size, undefined, convertOption, notAria2]
    · simp [undefined, convertOption, notAria2]
  · rw [g₂, g₁]
    rfl
  · simp only [flagOptions] at e₂
    simp only [sizeOptions] at e₄
    simp only [submitBody, e₁, e₂, e₃, e₄, bind, Except.bind]
    rfl

/-- Every field of the body `submit` posts is `submit`'s conversion of the form's field. -/
theorem submitBody_get {codec : JsonCodec} {group body : JsValue}
    (posted : submitBody codec group = .ok body) :
    (∀ k, k ≠ "OptionsSerialized" → body.get k = convertField k (group.get k)) ∧
      ∀ k, some ((body.get "OptionsSerialized").get k) =
        convertOption codec k ((group.get "OptionsSerialized").get k) := by
  obtain ⟨copy, options, -, -, fields, policy, optionFields, aria2, result⟩ :=
    submitBody_stages codec group
  rw [result] at posted
  split at posted
  · cases posted
  · rename_i parsed parsedAria2
    cases posted
    refine ⟨fun k notOptions => ?_, fun k => ?_⟩
    · by_cases isPolicy : k = "PolicyList"
      · subst isPolicy
        simp [policy, convertField]
      · simp [notOptions, isPolicy, fields k notOptions isPolicy]
    · by_cases isAria2 : k = "aria2_options"
      · subst isAria2
        simp [convertOption, ← aria2, parsedAria2]
      · simp [isAria2, optionFields k isAria2]

/-- `submit` posts exactly when `JSON.parse` accepts the Aria2 options; otherwise it shows the
warning and posts nothing. -/
theorem submitBody_ok_iff (codec : JsonCodec) (group : JsValue) :
    (∃ body, submitBody codec group = .ok body) ↔
      (convertOption codec "aria2_options"
        ((group.get "OptionsSerialized").get "aria2_options")).isSome := by
  obtain ⟨copy, options, -, -, -, -, -, aria2, result⟩ := submitBody_stages codec group
  simp only [result, convertOption, if_pos, ← aria2]
  split <;> simp_all

theorem submitBody_error {codec : JsonCodec} {group : JsValue} {message : String}
    (refused : submitBody codec group = .error message) : message = "Aria2 設定項格式錯誤" := by
  obtain ⟨copy, options, -, -, -, -, -, -, result⟩ := submitBody_stages codec group
  rw [result] at refused
  split at refused <;> cases refused
  rfl

end GroupForm

/-- The group records `GET /admin/group/:id` returns, by the fields the two components convert:
booleans, non-negative safe integers, a list of at most one policy ID, and options whose
switches are booleans, whose sizes are non-negative safe integers and whose Aria2 options are
a JSON object, each when present. Every other field is arbitrary. -/
structure GroupRecord (g : JsValue) : Prop where
  object : g.isObject
  shareEnabled : ∃ b, g.get "ShareEnabled" = .bool b
  webDAVEnabled : ∃ b, g.get "WebDAVEnabled" = .bool b
  maxStorage : ∃ n : Nat, g.get "MaxStorage" = .num n ∧ n < 2 ^ 53
  speedLimit : ∃ n : Nat, g.get "SpeedLimit" = .num n ∧ n < 2 ^ 53
  policyList : g.get "PolicyList" = .arr [] ∨ ∃ id : Nat, g.get "PolicyList" = .arr [.num id]
  options : (g.get "OptionsSerialized").isObject
  flags : ∀ k ∈ GroupForm.flagOptions, (g.get "OptionsSerialized").get k = .undefined ∨
    ∃ b, (g.get "OptionsSerialized").get k = .bool b
  sizes : ∀ k ∈ GroupForm.sizeOptions, (g.get "OptionsSerialized").get k = .undefined ∨
    ∃ n : Nat, (g.get "OptionsSerialized").get k = .num n ∧ n < 2 ^ 53
  aria2 : (g.get "OptionsSerialized").get "aria2_options" = .undefined ∨
    ((g.get "OptionsSerialized").get "aria2_options").IsJson ∧
      ((g.get "OptionsSerialized").get "aria2_options").isObject

/-- Emptying the policy list of a record gives a record. -/
theorem GroupRecord.withoutPolicy {g : JsValue} (record : GroupRecord g) :
    GroupRecord (g.set "PolicyList" (.arr [])) where
  object := rfl
  shareEnabled := by simpa using record.shareEnabled
  webDAVEnabled := by simpa using record.webDAVEnabled
  maxStorage := by simpa using record.maxStorage
  speedLimit := by simpa using record.speedLimit
  policyList := .inl (by simp)
  options := by simpa using record.options
  flags := by simpa using record.flags
  sizes := by simpa using record.sizes
  aria2 := by simpa using record.aria2

namespace EditGroupPreload

open GroupForm

/-- What the load conversion makes of the value `x` of the top-level field `k`, other than the
options and the policy list. -/
def loadField (k : String) (x : JsValue) : JsValue :=
  if k = "ShareEnabled" ∨ k = "WebDAVEnabled" then JsValue.boolText x.truthy
  else if k = "MaxStorage" ∨ k = "SpeedLimit" then .str x.toText
  else x

/-- What the load conversion makes of the value `x` of the option `k`, other than the Aria2
options. -/
def loadOption (k : String) (x : JsValue) : JsValue :=
  if x.isUndefined then x
  else if k ∈ flagOptions then JsValue.boolText x.truthy
  else if k ∈ sizeOptions then .str x.toText
  else x

/-- The stages of `convert` on a record: its loops convert the fields and options as
`loadField` and `loadOption` say, the policy list becomes its first entry, and the Aria2
options become their text. -/
theorem convert_stages (codec : JsonCodec) {g : JsValue} (record : GroupRecord g) :
    ∃ data options first : JsValue,
      (∀ k, k ≠ "OptionsSerialized" → k ≠ "PolicyList" → data.get k = loadField k (g.get k)) ∧
      (∀ k, k ≠ "aria2_options" →
        options.get k = loadOption k ((g.get "OptionsSerialized").get k)) ∧
      options.get "aria2_options" = (g.get "OptionsSerialized").get "aria2_options" ∧
      (g.get "PolicyList").readIndex 0 = .ok first ∧
      convert codec g = .ok ((data.set "PolicyList" first).set "OptionsSerialized"
        (options.set "aria2_options" (.str (if (options.get "aria2_options").isUndefined then "{}"
          else codec.stringify (options.get "aria2_options"))))) := by
  obtain ⟨d₁, e₁, o₁, f₁⟩ := forEachField_get ["ShareEnabled", "WebDAVEnabled"]
    (fun _ x => pure (some (JsValue.boolText x.truthy))) (by decide) record.object
    (fun k => some (JsValue.boolText (g.get k).truthy)) (fun _ _ => rfl)
  have keepsOptions : d₁.get "OptionsSerialized" = g.get "OptionsSerialized" := by simp [f₁]
  obtain ⟨p₁, e₂, q₁, g₁⟩ := forEachField_get flagOptions
    (fun _ x => pure (if x.isUndefined then none else some (JsValue.boolText x.truthy)))
    (by decide) (keepsOptions ▸ record.options)
    (fun k => if ((g.get "OptionsSerialized").get k).isUndefined then none
      else some (JsValue.boolText ((g.get "OptionsSerialized").get k).truthy))
    (fun _ _ => by rw [keepsOptions]; rfl)
  have intField : ∀ k ∈ ["MaxStorage", "SpeedLimit"], ∃ n : Nat, d₁.get k = .num n := by
    intro k mem
    simp only [List.mem_cons, List.mem_singleton, List.not_mem_nil, or_false] at mem
    rcases mem with rfl | rfl
    · obtain ⟨n, present, -⟩ := record.maxStorage
      exact ⟨n, by simp [f₁, present]⟩
    · obtain ⟨n, present, -⟩ := record.speedLimit
      exact ⟨n, by simp [f₁, present]⟩
  obtain ⟨d₂, e₃, o₂, f₂⟩ := forEachField_get ["MaxStorage", "SpeedLimit"]
    (fun _ x => some <$> x.callToString) (by decide) o₁
    (fun k => some (.str (d₁.get k).toText))
    (fun k mem => by obtain ⟨n, present⟩ := intField k mem; simp only [present]; rfl)
  have sizeOption : ∀ k ∈ sizeOptions, p₁.get k = (g.get "OptionsSerialized").get k := by
    intro k mem
    rw [g₁, if_neg fun flag => flagOptions_disjoint flag mem, keepsOptions]
  obtain ⟨p₂, e₄, q₂, g₂⟩ := forEachField_get sizeOptions
    (fun _ x => if x.isUndefined then pure none else some <$> x.callToString) (by decide) q₁
    (fun k => if (p₁.get k).isUndefined then none else some (.str (p₁.get k).toText))
    (fun k mem => by
      rcases record.sizes k mem with absent | ⟨n, present, -⟩
      · simp only [sizeOption k mem, absent]; rfl
      · simp only [sizeOption k mem, present]; rfl)
  obtain ⟨first, firstOk⟩ : ∃ first, (g.get "PolicyList").readIndex 0 = .ok first := by
    rcases record.policyList with empty | ⟨id, single⟩
    · exact ⟨.undefined, by rw [empty]; rfl⟩
    · exact ⟨.num id, by rw [single]; rfl⟩
  have keepsPolicy : d₂.get "PolicyList" = g.get "PolicyList" := by simp [f₂, f₁]
  refine ⟨d₂, p₂, first, fun k notOptions notPolicy => ?_, fun k notAria2 => ?_, ?_, firstOk, ?_⟩
  · rw [f₂, f₁]
    by_cases bools : k = "ShareEnabled" ∨ k = "WebDAVEnabled"
    · rcases bools with rfl | rfl <;> simp [loadField]
    · by_cases ints : k = "MaxStorage" ∨ k = "SpeedLimit"
      · rcases ints with rfl | rfl <;> simp [loadField, f₁]
      · simp [loadField, bools, ints]
  · rw [g₂]
    by_cases size : k ∈ sizeOptions
    · have flag : k ∉ flagOptions := fun flag => flagOptions_disjoint flag size
      rw [sizeOption k size]
      cases h : ((g.get "OptionsSerialized").get k).isUndefined <;> simp [loadOption, flag, size, h]
    · rw [g₁, keepsOptions]
      cases h : ((g.get "OptionsSerialized").get k).isUndefined <;>
        by_cases flag : k ∈ flagOptions <;> simp [loadOption, flag, size, h]
  · rw [g₂, g₁, keepsOptions]
    rfl
  · simp only [flagOptions] at e₂
    simp only [sizeOptions] at e₄
    simp only [convert, e₁, e₂, e₃, e₄, keepsPolicy, firstOk, bind, Except.bind]
    rfl

/-- `submit`'s conversion undoes the load conversion on the fields of a record. -/
theorem convertField_loadField {g : JsValue} (record : GroupRecord g) {k : String}
    (notPolicy : k ≠ "PolicyList") : convertField k (loadField k (g.get k)) = g.get k := by
  by_cases bools : k = "ShareEnabled" ∨ k = "WebDAVEnabled"
  · rcases bools with rfl | rfl
    · obtain ⟨b, present⟩ := record.shareEnabled
      simp [present, loadField, convertField]
    · obtain ⟨b, present⟩ := record.webDAVEnabled
      simp [present, loadField, convertField]
  · by_cases ints : k = "MaxStorage" ∨ k = "SpeedLimit"
    · rcases ints with rfl | rfl
      · obtain ⟨n, present, -⟩ := record.maxStorage
        simp [present, loadField, convertField, JsValue.toText]
      · obtain ⟨n, present, -⟩ := record.speedLimit
        simp [present, loadField, convertField, JsValue.toText]
    · simp [bools, ints, notPolicy, loadField, convertField]

/-- `submit`'s conversion undoes the load conversion on the options of a record other than the
Aria2 options. -/
theorem convertOption_loadOption (codec : JsonCodec) {g : JsValue} (record : GroupRecord g)
    {k : String} (notAria2 : k ≠ "aria2_options") :
    convertOption codec k (loadOption k ((g.get "OptionsSerialized").get k)) =
      some ((g.get "OptionsSerialized").get k) := by
  by_cases flag : k ∈ flagOptions
  · have size := flagOptions_disjoint flag
    rcases record.flags k flag with absent | ⟨b, present⟩
    · simp [absent, loadOption, convertOption, notAria2]
    · simp [present, flag, loadOption, convertOption, notAria2]
  · by_cases size : k ∈ sizeOptions
    · rcases record.sizes k size with absent | ⟨n, present, -⟩
      · simp [absent, loadOption, convertOption, notAria2]
      · simp [present, flag, size, loadOption, convertOption, notAria2, JsValue.toText]
    · cases h : ((g.get "OptionsSerialized").get k).isUndefined <;>
        simp [flag, size, h, loadOption, convertOption, notAria2]

/-- Loading a record and converting it back as `submit` does gives the record again, field by
field, except that the policy list goes through its first entry and an absent
`aria2_options` becomes the empty object. -/
theorem convert_roundTrip (codec : JsonCodec) {g : JsValue} (record : GroupRecord g) :
    ∃ loaded, convert codec g = .ok loaded ∧
      (∀ k, k ≠ "OptionsSerialized" → k ≠ "PolicyList" → convertField k (loaded.get k) = g.get k) ∧
      (g.get "PolicyList").readIndex 0 = .ok (loaded.get "PolicyList") ∧
      ∀ k, convertOption codec k ((loaded.get "OptionsSerialized").get k) =
        some (if k = "aria2_options" ∧ ((g.get "OptionsSerialized").get k).isUndefined
          then .obj [] else (g.get "OptionsSerialized").get k) := by
  obtain ⟨data, options, first, fields, optionFields, aria2, firstOk, converted⟩ :=
    convert_stages codec record
  refine ⟨_, converted, fun k notOptions notPolicy => ?_, ?_, fun k => ?_⟩
  · rw [JsValue.get_set_of_ne _ _ notOptions, JsValue.get_set_of_ne _ _ notPolicy,
      fields k notOptions notPolicy]
    exact convertField_loadField record notPolicy
  · rw [JsValue.get_set_of_ne _ _ (by decide), JsValue.get_set_self]
    exact firstOk
  · rw [JsValue.get_set_self]
    by_cases isAria2 : k = "aria2_options"
    · subst isAria2
      rcases record.aria2 with absent | ⟨json, -⟩
      · simp [convertOption, aria2, absent, codec.parse_empty_object, JsValue.toText]
      · simp [convertOption, aria2, JsValue.isUndefined_of_isJson json, JsValue.toText,
          codec.parse_stringify _ json]
    · rw [JsValue.get_set_of_ne _ _ isAria2, optionFields k isAria2]
      simpa [isAria2] using convertOption_loadOption codec record isAria2

end EditGroupPreload

end CloudreveAdmin
