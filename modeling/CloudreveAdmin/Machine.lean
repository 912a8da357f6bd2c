import Mathlib.Data.List.Basic

/-!
# Components as transition systems

Each component of the admin console is modelled as a transition system. Its state holds the
component's state hooks and the requests it has sent that the server has not answered yet.
Its events are what the administrator can do through the controls the component renders
(`enabled` says which controls are shown and not disabled) and the server's replies, which
arrive one at a time in any order. `step` is what the component's handlers do.

`run` executes a list of events and fails at the first one that is not enabled, so a run is
an interleaving of clicks and replies that the page allows. A property holds in every
reachable state when it holds initially and every enabled event keeps it
(`Reachable.induction`); the component files use this once per invariant. `restrict` keeps
only some of the events, for statements about the runs in which, say, the server answers the
requests in the order they were sent. `comap` runs a component against a server that answers
from a fixed table: its events say which request is answered, and the table says with what.
Both reach only states of the component itself (`Reachable.of_simulates`).
-/

namespace CloudreveAdmin

/-- The snackbar `ToggleSnackbar("top", "right", message, color)` shows. -/
structure Notice where
  message : String
  color : String

/-- A component: which events its page allows in a state, and what each one does. -/
structure Machine (State Event : Type) where
  enabled : State → Event → Bool
  step : State → Event → State

namespace Machine

variable {State Event : Type} (m : Machine State Event)

/-- The state after a list of events, or `none` when one of them is not allowed. -/
def run : State → List Event → Option State
  | s, [] => some s
  | s, e :: es => if m.enabled s e then run (m.step s e) es else none

/-- The states some run from `initial` reaches. -/
def Reachable (initial s : State) : Prop :=
  ∃ events, m.run initial events = some s

@[simp]
theorem run_nil (s : State) : m.run s [] = some s := rfl

theorem run_cons (s : State) (e : Event) (es : List Event) :
    m.run s (e :: es) = if m.enabled s e then m.run (m.step s e) es else none := rfl

theorem run_append (s : State) (es fs : List Event) :
    m.run s (es ++ fs) = (m.run s es).bind (m.run · fs) := by
  induction es generalizing s with
  | nil => rfl
  | cons e es ih =>
      simp only [List.cons_append, run_cons]
      split <;> simp [ih]

theorem Reachable.refl (s : State) : m.Reachable s s := ⟨[], rfl⟩

theorem Reachable.step {initial s : State} (reachable : m.Reachable initial s) {e : Event}
    (allowed : m.enabled s e) : m.Reachable initial (m.step s e) := by
  obtain ⟨es, ran⟩ := reachable
  exact ⟨es ++ [e], by simp [run_append, ran, run_cons, allowed]⟩

/-- Induction over the runs of a component: a property of the initial state that every allowed
event keeps holds in every reachable state. -/
theorem Reachable.induction {initial s : State} (reachable : m.Reachable initial s)
    (P : State → Prop) (holds : P initial)
    (preserved : ∀ s e, P s → m.enabled s e → P (m.step s e)) : P s := by
  obtain ⟨es, ran⟩ := reachable
  induction es generalizing initial with
  | nil => cases ran; exact holds
  | cons e es ih =>
      rw [run_cons] at ran
      split at ran
      · exact ih (preserved _ _ holds ‹_›) ran
      · cases ran

/-- A machine each of whose allowed steps is an allowed step of `m` reaches only states that
`m` reaches. -/
theorem Reachable.of_simulates {Source : Type} (m' : Machine State Source)
    (simulates : ∀ s e', m'.enabled s e' → ∃ e, m.enabled s e ∧ m.step s e = m'.step s e')
    {initial s : State} (reachable : m'.Reachable initial s) : m.Reachable initial s :=
  Reachable.induction m' reachable (m.Reachable initial) (Reachable.refl m initial)
    fun s e' reach allowed => by
      obtain ⟨e, enabled, same⟩ := simulates s e' allowed
      exact same ▸ Reachable.step m reach enabled

/-- The component with only the events `admits` lets through. -/
def restrict (admits : State → Event → Bool) : Machine State Event where
  enabled s e := m.enabled s e && admits s e
  step := m.step

theorem Reachable.of_restrict {admits : State → Event → Bool} {initial s : State}
    (reachable : (m.restrict admits).Reachable initial s) : m.Reachable initial s :=
  Reachable.of_simulates m (m.restrict admits)
    (fun _ e allowed => ⟨e, ((Bool.and_eq_true _ _).mp allowed).1, rfl⟩) reachable

/-- The component driven by events of another type, each of which `translate` turns into one of
its own in the state it happens in: a page run against a server that answers every request
from a fixed table, say. -/
def comap {Source : Type} (translate : State → Source → Event) : Machine State Source where
  enabled s e := m.enabled s (translate s e)
  step s e := m.step s (translate s e)

theorem Reachable.of_comap {Source : Type} {translate : State → Source → Event}
    {initial s : State} (reachable : (m.comap translate).Reachable initial s) :
    m.Reachable initial s :=
  Reachable.of_simulates m (m.comap translate)
    (fun s e allowed => ⟨translate s e, allowed, rfl⟩) reachable

end Machine

/-- What `kind` reads from the last of `requests` it recognises, such as the parameters of the
last list request still in flight. -/
def latest {Request P : Type} (kind : Request → Option P) : List Request → Option P
  | [] => none
  | r :: rs => (latest kind rs).or (kind r)

section Latest

variable {Request P : Type} (kind : Request → Option P)

@[simp]
theorem latest_nil : latest kind [] = none := rfl

@[simp]
theorem latest_cons (r : Request) (rs : List Request) :
    latest kind (r :: rs) = (latest kind rs).or (kind r) := rfl

@[simp]
theorem latest_append_singleton (rs : List Request) (r : Request) :
    latest kind (rs ++ [r]) = (kind r).or (latest kind rs) := by
  induction rs with
  | nil => simp
  | cons q rs ih => simp [ih, Option.or_assoc]

theorem latest_eq_none {rs : List Request} (unrecognised : ∀ r ∈ rs, kind r = none) :
    latest kind rs = none := by
  induction rs with
  | nil => rfl
  | cons r rs ih =>
      simp [unrecognised r (by simp), ih fun q mem => unrecognised q (by simp [mem])]

end Latest

/-- Answering the request at `index` takes it out of the count of the requests of its kind. -/
theorem countP_eraseIdx_add {α : Type} (p : α → Bool) {l : List α} {index : Nat} {a : α}
    (found : l.get? index = some a) :
    (l.eraseIdx index).countP p + (if p a then 1 else 0) = l.countP p := by
  induction l generalizing index with
  | nil => simp at found
  | cons b l ih =>
      cases index with
      | zero =>
          cases found
          simp [List.countP_cons]
      | succ index =>
          simp only [List.get?_cons_succ] at found
          simp only [List.eraseIdx_cons_succ, List.countP_cons, ← ih found]
          omega

/-! ### A flag that guards a kind of request -/

section LoadingGuard

variable {Request : Type} {busy : Request → Bool} {inFlight : List Request} {flag : Bool}

/-- At most one request of the kind `busy` is in flight, and `flag` is set while one is: the
shape of every page whose button `loading` disables until the server answers what it sent. -/
structure LoadingGuard (busy : Request → Bool) (inFlight : List Request) (flag : Bool) : Prop where
  single : inFlight.countP busy ≤ 1
  loading : 0 < inFlight.countP busy → flag

theorem LoadingGuard.of_idle (idle : inFlight.countP busy = 0) : LoadingGuard busy inFlight flag :=
  ⟨by omega, by omega⟩

/-- Sending while the flag is clear, and setting it. -/
theorem LoadingGuard.send (guard : LoadingGuard busy inFlight flag) (free : flag = false)
    (request : Request) : LoadingGuard busy (inFlight ++ [request]) true := by
  have idle : inFlight.countP busy = 0 := by
    by_contra pending
    exact absurd (guard.loading (Nat.pos_of_ne_zero pending)) (by simp [free])
  refine ⟨?_, fun _ => rfl⟩
  rw [List.countP_append, idle, Nat.zero_add]
  exact List.countP_le_length busy

/-- Sending a request of another kind. -/
theorem LoadingGuard.append_other (guard : LoadingGuard busy inFlight flag) {request : Request}
    (other : busy request = false) : LoadingGuard busy (inFlight ++ [request]) flag := by
  have count : (inFlight ++ [request]).countP busy = inFlight.countP busy := by simp [other]
  exact ⟨count ▸ guard.single, fun pending => guard.loading (count ▸ pending)⟩

/-- The answer to the guarded request leaves none in flight, whatever the flag becomes. -/
theorem LoadingGuard.answer_busy (guard : LoadingGuard busy inFlight flag) {index : Nat}
    {request : Request} (found : inFlight.get? index = some request) (isBusy : busy request)
    (flag' : Bool) : LoadingGuard busy (inFlight.eraseIdx index) flag' :=
  .of_idle (by
    have count := countP_eraseIdx_add busy found
    rw [if_pos isBusy] at count
    have := guard.single
    omega)

/-- The answer to a request of another kind leaves the guard as it is. -/
theorem LoadingGuard.answer_other (guard : LoadingGuard busy inFlight flag) {index : Nat}
    {request : Request} (found : inFlight.get? index = some request)
    (other : busy request = false) : LoadingGuard busy (inFlight.eraseIdx index) flag := by
  have count := countP_eraseIdx_add busy found
  rw [if_neg (by simp [other]), Nat.add_zero] at count
  exact ⟨count ▸ guard.single, fun pending => guard.loading (count ▸ pending)⟩

end LoadingGuard

end CloudreveAdmin
