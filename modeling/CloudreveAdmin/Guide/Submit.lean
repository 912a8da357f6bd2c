import CloudreveAdmin.Guide.Steps

/-!
# What the wizard saves

`submitPolicy` posts a copy of the policy state with its texts converted: the three switches
become booleans by `=== "true"`, `MaxSize` goes through `parseInt`, and the allowed file types
are split at commas. Without the CDN, the download address `BaseURL` is replaced by the
bucket's own address `Server`. `submitPolicyBody_get` states this field by field; the rest of
the module follows two fields of the policy state through whole runs.

The radio group of step 2 refuses permanent direct links for a private bucket, but the radio
group of step 0 that makes the bucket private checks nothing, and the back buttons lead from
step 2 to step 0. `privateLinked_step` shows that this edit is the only way in.
-/

namespace CloudreveAdmin

namespace COSGuide

/-- What `submitPolicy` makes of the value `x` of the policy field `k`. -/
def convertField (k : String) (x : JsValue) : JsValue :=
  if k = "AutoRename" ∨ k = "IsOriginLinkEnable" ∨ k = "IsPrivate" then .bool (x.eqStr "true")
  else if k = "MaxSize" then parseInt x
  else x

/-- The allowed file types `submitPolicy` posts for a text: its pieces between commas, and no
type at all for the empty text. -/
def fileTypes (text : String) : List String :=
  if splitComma text = [""] then [] else splitComma text

/-- Every field of the body `submitPolicy` posts, from the policy state. -/
theorem submitPolicyBody_get {policy body : JsValue} {useCDN : String}
    (posted : submitPolicyBody policy useCDN = .ok body) :
    (∀ k, k ≠ "OptionsSerialized" → k ≠ "BaseURL" → body.get k = convertField k (policy.get k)) ∧
      body.get "BaseURL" =
        (if useCDN = "false" then policy.get "Server" else policy.get "BaseURL") ∧
      (∀ k, k ≠ "file_type" →
        (body.get "OptionsSerialized").get k = (policy.get "OptionsSerialized").get k) ∧
      ∃ text, (policy.get "OptionsSerialized").get "file_type" = .str text ∧
        (body.get "OptionsSerialized").get "file_type" = .arr ((fileTypes text).map .str) := by
  unfold submitPolicyBody at posted
  cases split : (lookupField "file_type" (policy.get "OptionsSerialized").fields).callSplit with
  | error e => by_cases cdn : useCDN = "false" <;> simp [cdn, split] at posted
  | ok parts =>
    obtain ⟨text, found, rfl⟩ := JsValue.callSplit_eq_ok split
    by_cases cdn : useCDN = "false" <;> simp [cdn, split] at posted <;> subst posted
    all_goals
      refine ⟨fun k os base => ?_, by simp [cdn], fun k ft => by simp [ft, -JsValue.get_obj], text,
        found, by simp [fileTypes]⟩
      by_cases switch : k = "AutoRename" ∨ k = "IsOriginLinkEnable" ∨ k = "IsPrivate"
      · rcases switch with rfl | rfl | rfl <;> simp [convertField]
      · by_cases size : k = "MaxSize"
        · subst size; simp [convertField]
        · simp only [not_or] at switch
          simp [convertField, os, base, size, switch]

example :
    ∃ body, submitPolicyBody newPolicy "false" = .ok body ∧
      body.get "BaseURL" = newPolicy.get "Server" := by
  obtain ⟨body, posted⟩ : ∃ body, submitPolicyBody newPolicy "false" = .ok body := ⟨_, rfl⟩
  exact ⟨body, posted, (submitPolicyBody_get posted).2.1.trans (if_pos rfl)⟩

/-! ## Private buckets and direct links -/

/-- A policy state that would be saved as a private bucket with permanent direct links. -/
def privateLinked (policy : JsValue) : Bool :=
  (policy.get "IsPrivate").eqStr "true" && (policy.get "IsOriginLinkEnable").eqStr "true"

/-- The names the inputs wired to `handleChange` write. -/
theorem changeShown_names {s : Guide} {name : String} {value : JsValue}
    (shown : changeShown s name value) :
    name ∈ ["BucketName", "Server", "AccessKey", "SecretKey", "Name", "IsPrivate", "BaseURL",
      "DirNameRule", "AutoRename", "FileNameRule", "MaxSize"] := by
  unfold changeShown at shown
  split at shown <;> simp at shown <;> aesop

/-- Only the `IsPrivate` radio group of step 0 can make a policy state `privateLinked`: the
step-2 guard keeps every other event from doing it. -/
theorem privateLinked_step {s : Guide} {e : Event} (allowed : enabled s e)
    (clean : privateLinked s.policy = false) (linked : privateLinked (step s e).policy = true) :
    ∃ value, e = .change "IsPrivate" value ∧ s.activeStep = 0 := by
  cases e with
  | change name value =>
      by_cases isPrivate : name = "IsPrivate"
      · subst isPrivate
        refine ⟨value, rfl, ?_⟩
        simp only [enabled, changeShown] at allowed
        split at allowed <;> simp_all
      · have other : name ≠ "IsOriginLinkEnable" := by
          rintro rfl
          simpa using changeShown_names allowed
        simp [step, handleChange, privateLinked, Ne.symm isPrivate, Ne.symm other] at linked
        simp [privateLinked, linked] at clean
  | originLink value =>
      simp only [step] at linked
      split at linked
      · simp_all
      · simp_all [handleChange, privateLinked]
  | next | reply index answer =>
      simp only [step] at linked
      split at linked <;> simp_all
  | _ =>
      simp_all [step, privateLinked, JsValue.setIn, handleOptionChange, createCORS, creatCallback]

/-- Makes the bucket public, allows direct links on step 2 and goes back to step 0. -/
def publicWithLinks : List Event :=
  fillBucket ++ [.change "IsPrivate" (.str "false"), .next, .next, .originLink (.str "true"),
    .back, .back]

/-- The wizard after `publicWithLinks`. -/
def backWithLinks : Guide :=
  (machine.run (init none) publicWithLinks).getD (init none)

theorem isPrivate_radio_links_private_bucket :
    ∃ value, Event.change "IsPrivate" (.str "true") = .change "IsPrivate" value ∧
      backWithLinks.activeStep = 0 :=
  privateLinked_step rfl rfl rfl

/-- `publicWithLinks`, then makes the bucket private again and saves. -/
def privateWithLinks : List Event :=
  publicWithLinks ++ [.change "IsPrivate" (.str "true"), .next, .next, .next, .next]

theorem private_bucket_posted_with_links :
    ∃ s body, machine.run (init none) privateWithLinks = some s ∧
      s.inFlight = [.savePolicy body] ∧
      body.get "IsPrivate" = .bool true ∧ body.get "IsOriginLinkEnable" = .bool true :=
  ⟨_, _, rfl, rfl, rfl, rfl⟩

/-! ## A second save before the first is answered -/

/-- Fills step 0 and presses 下一步 four times, and once more. -/
def submitTwice : List Event := fillBucket ++ [.next, .next, .next, .next, .next]

theorem second_save_while_first_pending :
    ∃ s first second, machine.run (init none) submitTwice = some s ∧
      s.inFlight = [.savePolicy first, .savePolicy second] ∧ s.loading = false :=
  ⟨_, _, _, rfl, rfl, rfl⟩

end COSGuide

end CloudreveAdmin
