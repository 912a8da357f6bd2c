import CloudreveAdmin.Guide.Submit

/-!
# Fields the administrator did not edit

A wizard opened with a saved policy `p` starts from `p` itself. `Keeps` records that every
field no input has written since still holds `p`'s value; the records `edited` and
`editedOptions` of the state name the written ones. `posted_unedited_fields` combines it with
`submitPolicyBody_get`: the body posted on a later save converts `p`'s values, except for
`BaseURL`, which `submitPolicy` overwrites with `Server` whenever `useCDN` is `"false"`. The
CDN radio group of step 0 starts at `"false"` whatever `p` is and nothing else writes it
(`server_posted_without_cdn`), so a policy that was saved with the CDN loses its CDN address
unless the administrator chooses the CDN again.
-/

namespace CloudreveAdmin

namespace COSGuide

/-- The fields of the policy state that no input has written since the wizard opened with `p`
still hold `p`'s values. -/
structure Keeps (p : JsValue) (s : Guide) : Prop where
  field : ∀ k, k ∉ s.edited → k ≠ "OptionsSerialized" → s.policy.get k = p.get k
  option : ∀ k, k ∉ s.editedOptions →
    (s.policy.get "OptionsSerialized").get k = (p.get "OptionsSerialized").get k

theorem keeps_init (p : JsValue) : Keeps p (init (some p)) :=
  ⟨fun _ _ _ => rfl, fun _ _ => rfl⟩

/-- Writing a top-level field other than the options, and naming it in `edited`, keeps the
other fields. -/
theorem Keeps.write {p : JsValue} {s : Guide} (keeps : Keeps p s) {name : String}
    (notOptions : name ≠ "OptionsSerialized") (value : JsValue) :
    Keeps p { s with policy := s.policy.set name value, edited := name :: s.edited } := by
  refine ⟨fun k fresh other => ?_, fun k fresh => ?_⟩
  · simp only [List.mem_cons, not_or] at fresh
    simp [fresh.1, keeps.field k fresh.2 other]
  · simp [Ne.symm notOptions, keeps.option k fresh]

/-- Writing an option, and naming it in `editedOptions`, keeps the other options. -/
theorem Keeps.writeOption {p : JsValue} {s : Guide} (keeps : Keeps p s) (name : String)
    (value : JsValue) :
    Keeps p { s with policy := s.policy.setIn "OptionsSerialized" name value,
                     editedOptions := name :: s.editedOptions } := by
  refine ⟨fun k fresh other => ?_, fun k fresh => ?_⟩
  · simp [other, keeps.field k fresh other]
  · simp only [List.mem_cons, not_or] at fresh
    simp [fresh.1, keeps.option k fresh.2]

theorem keeps_step {p : JsValue} {s : Guide} (keeps : Keeps p s) {e : Event}
    (allowed : enabled s e) : Keeps p (step s e) := by
  cases e with
  | change name value =>
      exact keeps.write (by rintro rfl; simpa using changeShown_names allowed) value
  | changeOption name value => exact keeps.writeOption name value
  | originLink value =>
      simp only [step]
      split
      · exact ⟨keeps.field, keeps.option⟩
      · exact keeps.write (by decide) value
  | maxSizeLimit limit => exact keeps.write (by decide) _
  | fileTypeLimit limit => exact keeps.writeOption _ _
  | next =>
      simp only [step]
      split
      · exact ⟨keeps.field, keeps.option⟩
      · exact ⟨by simpa using keeps.field, by simpa using keeps.option⟩
  | reply index answer =>
      simp only [step]
      split
      · exact ⟨by simpa using keeps.field, by simpa using keeps.option⟩
      · exact ⟨keeps.field, keeps.option⟩
  | _ => exact ⟨keeps.field, keeps.option⟩

theorem Reachable.keeps {p : JsValue} {s : Guide} (reach : Reachable (some p) s) : Keeps p s :=
  Machine.Reachable.induction machine reach (Keeps p) (keeps_init p)
    fun _ _ keeps allowed => keeps_step keeps allowed

/-- The body an event posts to `/admin/policy` is the one `submitPolicyBody` makes of the
state. -/
theorem sends_savePolicy {s : Guide} {e : Event} {body : JsValue}
    (posted : .savePolicy body ∈ sends s e) : submitPolicyBody s.policy s.useCDN = .ok body := by
  cases e <;> simp only [sends, List.not_mem_nil, List.mem_singleton, reduceCtorEq] at posted
  split at posted
  · simp at posted
  · split at posted <;> simp_all

/-- Every body the wizard posts for a policy it edits carries the policy's own values, as
`submitPolicy` converts them, in the fields no input has written, except for the download
address: without the CDN, which is the choice the wizard opens with, that is the bucket's
address `Server`. -/
theorem posted_unedited_fields {p : JsValue} {s : Guide} (reach : Reachable (some p) s)
    {e : Event} {body : JsValue} (posted : .savePolicy body ∈ sends s e) :
    (∀ k, k ∉ s.edited → k ≠ "OptionsSerialized" → k ≠ "BaseURL" →
        body.get k = convertField k (p.get k)) ∧
      ("BaseURL" ∉ s.edited → "Server" ∉ s.edited →
        body.get "BaseURL" = if s.useCDN = "false" then p.get "Server" else p.get "BaseURL") ∧
      (∀ k, k ∉ s.editedOptions → k ≠ "file_type" →
        (body.get "OptionsSerialized").get k = (p.get "OptionsSerialized").get k) ∧
      ("file_type" ∉ s.editedOptions → ∃ text,
        (p.get "OptionsSerialized").get "file_type" = .str text ∧
          (body.get "OptionsSerialized").get "file_type" = .arr ((fileTypes text).map .str)) := by
  obtain ⟨field, option⟩ := reach.keeps
  obtain ⟨fields, baseURL, options, text, found, types⟩ :=
    submitPolicyBody_get (sends_savePolicy posted)
  refine ⟨fun k fresh os base => ?_, fun base server => ?_, fun k fresh other => ?_,
    fun fresh => ⟨text, ?_, types⟩⟩
  · rw [fields k os base, field k fresh os]
  · rw [baseURL, field _ base (by decide), field _ server (by decide)]
  · rw [options k other, option k fresh]
  · rw [← option _ fresh, found]

/-- A saved policy whose files are served through the CDN. -/
def cdnPolicy : JsValue :=
  .obj [("ID", .num 3), ("Type", .str "cos"), ("Name", .str "cos"),
    ("BucketName", .str "ccc-1252109809"), ("SecretKey", .str "secretexample"),
    ("AccessKey", .str "AKIDexample"), ("BaseURL", .str "cdn.ccc-1252109809"),
    ("Server", .str "ccc-1252109809.cos"), ("IsPrivate", .str "false"),
    ("DirNameRule", .str "uploads/{year}/{month}/{day}"), ("AutoRename", .str "true"),
    ("FileNameRule", .str "{randomkey8}_{originname}"), ("IsOriginLinkEnable", .str "false"),
    ("MaxSize", .str "0"), ("OptionsSerialized", .obj [("file_type", .str "")])]

/-- The wizard opened with `cdnPolicy`, on the form of step 3. -/
def cdnAtLimits : Guide :=
  (machine.run (init (some cdnPolicy)) [.next, .next, .next]).getD (init none)

theorem cdnPolicy_posts_server :
    ∃ body, .savePolicy body ∈ sends cdnAtLimits .next ∧
      body.get "BaseURL" = cdnPolicy.get "Server" := by
  obtain ⟨body, posted⟩ : ∃ body, .savePolicy body ∈ sends cdnAtLimits .next :=
    ⟨_, List.mem_singleton.mpr rfl⟩
  exact ⟨body, posted, ((posted_unedited_fields ⟨[.next, .next, .next], rfl⟩ posted).2.1
    (by decide) (by decide)).trans (if_pos rfl)⟩

/-! ## Runs that never touch the CDN radio group -/

/-- Whether an event is a click on the CDN radio group of step 0. -/
def Event.choosesCdn : Event → Bool
  | .cdn _ => true
  | _ => false

/-- The wizard when the administrator never clicks the CDN radio group. -/
def withoutCdn : Machine Guide Event :=
  machine.restrict fun _ e => !e.choosesCdn

/-- Only the CDN radio group writes `useCDN`. -/
theorem useCDN_step (s : Guide) {e : Event} (other : e.choosesCdn = false) :
    (step s e).useCDN = s.useCDN := by
  cases e with
  | cdn value => simp [Event.choosesCdn] at other
  | originLink value =>
      simp only [step]
      split <;> rfl
  | next =>
      simp only [step]
      split <;> simp
  | reply index answer =>
      simp only [step]
      split
      · rename_i request _
        cases request <;> cases answer <;> rfl
      · rfl
  | _ => rfl

/-- When the administrator never clicks the CDN radio group, `useCDN` keeps the `"false"` the
wizard opens with whatever policy it edits, so every save posts the bucket's address `Server`
as the download address, and the policy's own `Server` while no input has written it. -/
theorem server_posted_without_cdn {p : JsValue} {s : Guide}
    (reach : withoutCdn.Reachable (init (some p)) s) {e : Event} {body : JsValue}
    (posted : .savePolicy body ∈ sends s e) :
    s.useCDN = "false" ∧ body.get "BaseURL" = s.policy.get "Server" ∧
      ("Server" ∉ s.edited → body.get "BaseURL" = p.get "Server") := by
  have unchosen := Machine.Reachable.induction withoutCdn reach (fun s => s.useCDN = "false") rfl
    fun s e unchosen allowed => by
      simp only [withoutCdn, Machine.restrict, Bool.and_eq_true, Bool.not_eq_true'] at allowed
      exact (useCDN_step s allowed.2).trans unchosen
  have server := (submitPolicyBody_get (sends_savePolicy posted)).2.1.trans (if_pos unchosen)
  exact ⟨unchosen, server,
    fun fresh => server.trans ((Reachable.keeps reach.of_restrict).field _ fresh (by decide))⟩

/-- `cdnPolicy` saved on the form of step 3, the CDN radio group never clicked. -/
theorem cdnPolicy_saved_with_server :
    ∃ body, .savePolicy body ∈ sends cdnAtLimits .next ∧ cdnAtLimits.useCDN = "false" ∧
      body.get "BaseURL" = cdnAtLimits.policy.get "Server" ∧
      ("Server" ∉ cdnAtLimits.edited → body.get "BaseURL" = cdnPolicy.get "Server") := by
  obtain ⟨body, posted⟩ : ∃ body, .savePolicy body ∈ sends cdnAtLimits .next :=
    ⟨_, List.mem_singleton.mpr rfl⟩
  exact ⟨body, posted, server_posted_without_cdn ⟨[.next, .next, .next], rfl⟩ posted⟩

/-- Saving `cdnPolicy` without touching any input replaces its download address. -/
theorem unedited_baseURL_replaced :
    ∃ s body, machine.run (init (some cdnPolicy)) [.next, .next, .next, .next] = some s ∧
      s.edited = [] ∧ s.inFlight = [.savePolicy body] ∧
      body.get "BaseURL" = cdnPolicy.get "Server" ∧
      body.get "BaseURL" ≠ convertField "BaseURL" (cdnPolicy.get "BaseURL") :=
  ⟨_, _, rfl, rfl, rfl, rfl, fun h => absurd (JsValue.str.inj h) (by decide)⟩

end COSGuide

end CloudreveAdmin
