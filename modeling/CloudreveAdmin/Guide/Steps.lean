import CloudreveAdmin.Guide.Model

/-!
# The wizard's steps

The CORS and callback requests of steps 4 and 5 need the ID of the saved policy. Steps 4 to 6
are reached only through a successful save: `submitPolicy`'s success handler sets step 4 and
the policy ID from the reply, and no control leads from step 4 or later back to step 3. So
every CORS or callback request carries an ID some successful save returned before it was
sent (`dependent_requests_use_saved_id`).

The step moves forward through the next and skip buttons and back through the back buttons
of steps 1 to 3, but the success handlers set absolute steps, and the skip buttons stay
enabled while a CORS or callback request is pending. A reply that arrives after the
administrator skipped ahead therefore sets the step back, even from the end step 6
(`late_cors_reply_leaves_end`). `activeStep_step` states everything a step can do in the runs
where 下一步 waits for the save in flight, as its `disabled={loading}` intends: the step stays
within 0 to 6 and goes down only by a back button or by such a late CORS reply. A second save
sent while the first is pending, which the page does allow, can bring a late save reply to set
step 4 as well.
-/

namespace CloudreveAdmin

namespace COSGuide

/-- A CORS or callback request, one that carries the policy ID. -/
def Request.isDependent : Request → Bool
  | .savePolicy _ => false
  | .cors _ | .scf _ _ => true

/-- What holds in every state of a wizard run. -/
structure Invariant (s : Guide) : Prop where
  activeStep_le : s.activeStep ≤ 6
  policyID_saved : 4 ≤ s.activeStep → s.policyID ∈ s.savedIDs
  dependent_after_save : ∀ r ∈ s.inFlight, r.isDependent → 4 ≤ s.activeStep

theorem invariant_init (props : Option JsValue) : Invariant (init props) :=
  ⟨by simp [init], by simp [init], by simp [init]⟩

/-- An answered request may leave the network: the invariant survives the removal. -/
theorem Invariant.eraseIdx {s : Guide} (inv : Invariant s) (index : Nat) :
    Invariant { s with inFlight := s.inFlight.eraseIdx index } :=
  ⟨inv.activeStep_le, inv.policyID_saved,
    fun r mem => inv.dependent_after_save r (List.mem_of_mem_eraseIdx mem)⟩

theorem Invariant.receive {s : Guide} (inv : Invariant s) {request : Request}
    (answer : Reply) (late : request.isDependent → 4 ≤ s.activeStep) :
    Invariant (receive s request answer) := by
  obtain ⟨le, saved, dependents⟩ := inv
  cases answer with
  | fail message => cases request <;> exact ⟨le, saved, dependents⟩
  | ok data =>
      cases request with
      | savePolicy body =>
          exact ⟨by simp [COSGuide.receive], fun _ => by simp [COSGuide.receive],
            fun _ _ _ => by simp [COSGuide.receive]⟩
      | cors id | scf id _ =>
          exact ⟨by simp [COSGuide.receive],
            fun _ => by simpa [COSGuide.receive] using saved (late rfl),
            fun _ _ _ => by simp [COSGuide.receive]⟩

theorem invariant_step {s : Guide} (inv : Invariant s) {e : Event} (allowed : enabled s e) :
    Invariant (step s e) := by
  obtain ⟨le, saved, dependents⟩ := inv
  have early : s.activeStep < 4 → ∀ r ∈ s.inFlight, r.isDependent = false := by
    intro below r mem
    by_contra dependent
    exact absurd (dependents r mem (by simpa using dependent)) (by omega)
  cases e with
  | next =>
      simp only [enabled, Bool.and_eq_true, decide_eq_true_eq, Bool.not_eq_true'] at allowed
      by_cases forward : s.activeStep < 3
      · refine ⟨by simp [step, forward]; omega, fun h => by simp [step, forward] at h; omega,
          fun r mem dependent => ?_⟩
        simp only [step, forward, if_true] at mem
        simp [early (by omega) r mem] at dependent
      · have unchanged : (step s .next).activeStep = s.activeStep := by simp [step, forward]
        refine ⟨unchanged ▸ le, fun h => ?_, fun r mem dependent => unchanged ▸ ?_⟩
        · simpa [step, forward] using saved (unchanged ▸ h)
        · rw [inFlight_step] at mem
          simp only [remaining, sends, forward, if_false, List.mem_append] at mem
          rcases mem with old | new
          · exact dependents r old dependent
          · split at new <;> simp_all [Request.isDependent]
  | back =>
      simp only [enabled, Bool.and_eq_true, decide_eq_true_eq] at allowed
      refine ⟨by simp [step]; omega, fun h => by simp [step] at h; omega, fun r mem dependent => ?_⟩
      simp [early (by omega) r mem] at dependent
  | skip =>
      simp only [enabled, Bool.or_eq_true, decide_eq_true_eq] at allowed
      exact ⟨by simp [step]; omega, fun _ => saved (by omega),
        fun r mem _ => by simp [step]; omega⟩
  | cors | callback =>
      simp only [enabled, Bool.and_eq_true, decide_eq_true_eq] at allowed
      refine ⟨le, saved, fun r mem _ => ?_⟩
      simp [step, createCORS, creatCallback] at mem ⊢
      omega
  | reply index answer =>
      simp only [step]
      cases found : s.inFlight.get? index with
      | none => exact ⟨le, saved, dependents⟩
      | some request =>
          exact (Invariant.eraseIdx ⟨le, saved, dependents⟩ index).receive answer
            (dependents request (List.get?_mem found))
  | originLink value =>
      simp only [step]
      split <;> exact ⟨le, saved, dependents⟩
  | _ => exact ⟨le, saved, dependents⟩

theorem Reachable.invariant {props : Option JsValue} {s : Guide} (reach : Reachable props s) :
    Invariant s :=
  Machine.Reachable.induction machine reach Invariant (invariant_init props)
    fun _ _ inv allowed => invariant_step inv allowed

/-- What an allowed event adds to the requests in flight, besides answering at most one of them:
every CORS or callback request among it carries an ID that a successful save returned before it
was sent. -/
theorem dependent_requests_use_saved_id {props : Option JsValue} {s : Guide}
    (reach : Reachable props s) {e : Event} (allowed : enabled s e) :
    ∃ sent, (step s e).inFlight = remaining s e ++ sent ∧
      ∀ r ∈ sent, ∀ id, (r = .cors id ∨ ∃ region, r = .scf id region) → id ∈ s.savedIDs := by
  have saved := reach.invariant.policyID_saved
  refine ⟨sends s e, inFlight_step s e, fun r mem id dependent => ?_⟩
  cases e with
  | cors | callback =>
      simp only [enabled, Bool.and_eq_true, decide_eq_true_eq] at allowed
      simp only [sends, List.mem_singleton] at mem
      subst mem
      rcases dependent with same | ⟨_, same⟩ <;> cases same
      all_goals exact saved (by omega)
  | next =>
      simp only [sends] at mem
      split at mem
      · simp at mem
      · split at mem <;> simp at mem
        subst mem
        rcases dependent with different | ⟨_, different⟩ <;> cases different
  | _ => simp [sends] at mem

/-- The administrator fills in a new policy and saves it; the server answers with ID 7. -/
def saveNew : List Event :=
  fillBucket ++ [.next, .next, .next, .next, .reply 0 (.ok (.num 7))]

/-- The wizard on step 4 after `saveNew`. -/
def afterSave : Guide :=
  (machine.run (init none) saveNew).getD (init none)

theorem cors_after_save_uses_saved_id :
    ∃ sent, (step afterSave .cors).inFlight = remaining afterSave .cors ++ sent ∧
      ∀ r ∈ sent, ∀ id, (r = .cors id ∨ ∃ region, r = .scf id region) →
        id ∈ afterSave.savedIDs :=
  @dependent_requests_use_saved_id none afterSave ⟨saveNew, rfl⟩ .cors rfl

example : afterSave.savedIDs = [.num 7] ∧ (step afterSave .cors).inFlight = [.cors (.num 7)] :=
  ⟨rfl, rfl⟩

/-! ### One save at a time -/

/-- A save request. -/
def Request.isSave : Request → Bool
  | .savePolicy _ => true
  | .cors _ | .scf _ _ => false

/-- The wizard when 下一步 on step 3 waits until the save in flight has been answered: the runs
that the button's `disabled={loading}` is there to allow, which the synchronous
`setLoading(false)` of `submitPolicy` does not enforce. -/
def oneSave : Machine Guide Event :=
  machine.restrict fun s e =>
    match e with
    | .next => s.activeStep < 3 || s.inFlight.countP Request.isSave = 0
    | _ => true

/-- A save in flight is the only one, and the wizard is on step 3 or before while it is. -/
def SaveWaits (s : Guide) : Prop :=
  LoadingGuard Request.isSave s.inFlight (decide (s.activeStep ≤ 3))

theorem saveWaits_step {s : Guide} (inv : Invariant s) (waits : SaveWaits s) {e : Event}
    (allowed : oneSave.enabled s e) : SaveWaits (step s e) := by
  simp only [oneSave, Machine.restrict, machine, Bool.and_eq_true] at allowed
  obtain ⟨allowed, admitted⟩ := allowed
  have idle : 3 < s.activeStep → s.inFlight.countP Request.isSave = 0 := fun late => by
    by_contra pending
    have := of_decide_eq_true (waits.loading (Nat.pos_of_ne_zero pending))
    omega
  cases e with
  | next =>
      simp only [enabled, Bool.and_eq_true, decide_eq_true_eq] at allowed
      by_cases forward : s.activeStep < 3
      · exact ⟨by simpa [step, forward] using waits.single, fun _ => by simp [step, forward]; omega⟩
      · simp only [Bool.or_eq_true, decide_eq_true_eq, forward, false_or] at admitted
        have count : (step s .next).inFlight.countP Request.isSave ≤ 1 := by
          rw [inFlight_step, List.countP_append, show remaining s .next = s.inFlight from rfl,
            admitted, Nat.zero_add]
          refine (List.countP_le_length _).trans ?_
          simp only [sends, if_neg forward]
          split <;> simp
        exact ⟨count, fun _ => by simp [step, forward]; omega⟩
  | back =>
      simp only [enabled, Bool.and_eq_true, decide_eq_true_eq] at allowed
      exact ⟨waits.single, fun _ => by simp [step]; omega⟩
  | skip =>
      simp only [enabled, Bool.or_eq_true, decide_eq_true_eq] at allowed
      exact .of_idle (idle (by omega))
  | cors | callback =>
      simp only [enabled, Bool.and_eq_true, decide_eq_true_eq] at allowed
      exact .of_idle (by simp [step, createCORS, creatCallback, idle (by omega), Request.isSave])
  | reply index answer =>
      cases found : s.inFlight.get? index with
      | none =>
          simp only [step, found]
          exact waits
      | some request =>
          rw [step_reply found]
          cases request with
          | savePolicy body => cases answer <;> exact waits.answer_busy found rfl _
          | cors id | scf id region =>
              have late := inv.dependent_after_save _ (List.get?_mem found) rfl
              have count := countP_eraseIdx_add Request.isSave found
              rw [if_neg (by simp [Request.isSave]), Nat.add_zero, idle (by omega)] at count
              cases answer <;> exact .of_idle count
  | originLink value =>
      simp only [step]
      split <;> exact waits
  | _ => exact waits

theorem oneSave_invariant {props : Option JsValue} {s : Guide}
    (reach : oneSave.Reachable (init props) s) : Invariant s ∧ SaveWaits s :=
  Machine.Reachable.induction oneSave reach (fun s => Invariant s ∧ SaveWaits s)
    ⟨invariant_init props, .of_idle rfl⟩
    fun _ _ ⟨inv, waits⟩ allowed =>
      ⟨invariant_step inv ((Bool.and_eq_true _ _).mp allowed).1, saveWaits_step inv waits allowed⟩

/-- Everything an allowed event does to the step when 下一步 waits for the save in flight: it
stays within 0 to 6, and it goes down only through a back button, by one, or through a success
reply to a CORS request, which sets step 5 whatever step is on screen. -/
theorem activeStep_step {props : Option JsValue} {s : Guide}
    (reach : oneSave.Reachable (init props) s) {e : Event} (allowed : oneSave.enabled s e) :
    (step s e).activeStep ≤ 6 ∧
      ((step s e).activeStep < s.activeStep →
        (e = .back ∧ (step s e).activeStep + 1 = s.activeStep) ∨
        ∃ index data id, s.inFlight.get? index = some (.cors id) ∧
          e = .reply index (.ok data) ∧ (step s e).activeStep = 5) := by
  obtain ⟨inv, waits⟩ := oneSave_invariant reach
  have shown : enabled s e := ((Bool.and_eq_true _ _).mp allowed).1
  refine ⟨(invariant_step inv shown).activeStep_le, fun lower => ?_⟩
  have le := inv.activeStep_le
  cases e with
  | back =>
      simp only [enabled, Bool.and_eq_true, decide_eq_true_eq] at shown
      exact .inl ⟨rfl, by simp [step]; omega⟩
  | next =>
      by_cases forward : s.activeStep < 3 <;> simp [step, forward] at lower
  | skip => simp [step] at lower
  | reply index answer =>
      cases found : s.inFlight.get? index with
      | none =>
          simp only [enabled, decide_eq_true_eq] at shown
          exact absurd (List.get?_eq_none.mp found) (by omega)
      | some request =>
          rw [step_reply found] at lower ⊢
          cases request <;> cases answer <;> simp only [receive] at lower
          case savePolicy.ok =>
              have early := of_decide_eq_true
                (waits.loading (List.countP_pos_iff.mpr ⟨_, List.get?_mem found, rfl⟩))
              omega
          case cors.ok => exact .inr ⟨index, _, _, found, rfl, rfl⟩
          all_goals omega
  | originLink value =>
      simp only [step] at lower
      split at lower <;> simp at lower
  | _ => simp [step, createCORS, creatCallback] at lower

/-- The administrator saves a new policy, asks for the CORS policy and skips steps 4 and 5
before the CORS reply arrives. -/
def skipPastCors : List Event :=
  saveNew ++ [.cors, .skip, .skip]

/-- The wizard on the end step of `skipPastCors`, with the CORS request still in flight. -/
def atEnd : Guide :=
  (machine.run (init none) skipPastCors).getD (init none)

theorem late_cors_reply_within_steps :
    (step atEnd (.reply 0 (.ok .null))).activeStep ≤ 6 ∧
      ((step atEnd (.reply 0 (.ok .null))).activeStep < atEnd.activeStep →
        (Event.reply 0 (.ok .null) = .back ∧
          (step atEnd (.reply 0 (.ok .null))).activeStep + 1 = atEnd.activeStep) ∨
        ∃ index data id, atEnd.inFlight.get? index = some (.cors id) ∧
          Event.reply 0 (.ok .null) = .reply index (.ok data) ∧
          (step atEnd (.reply 0 (.ok .null))).activeStep = 5) :=
  @activeStep_step none atEnd ⟨skipPastCors, rfl⟩ (.reply 0 (.ok .null)) rfl

/-- The late CORS reply takes the wizard from the end step back to step 5. -/
theorem late_cors_reply_leaves_end :
    (machine.run (init none) skipPastCors).map (·.activeStep) = some 6 ∧
      (machine.run (init none) (skipPastCors ++ [.reply 0 (.ok .null)])).map (·.activeStep) =
        some 5 :=
  ⟨rfl, rfl⟩

end COSGuide

end CloudreveAdmin
