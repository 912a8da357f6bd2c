import CloudreveAdmin.Machine

/-!
# The storage policy list

`Policy` lists the storage policies a page at a time. Its effect on `[page, pageSize, filter]`
calls `loadList`, which posts the three parameters to `/admin/policy/list`; when the server
answers, the page shows the policies it sent, their file counts and sizes (`statics`) and the
number of policies of the filter (`total`). The arrows of the pagination control move one page
back or forth, choosing the rows per page goes back to page 1, and the type select sets the
filter. The delete button of a row deletes that policy and then calls the `loadList` of the
render it was clicked in, with the parameters of that render.

The server is outside this repository. The model keeps its table of policies in the order of
their IDs and answers a list request with the slice of the policies of the filter, newest first,
that the page and the page size select; a deletion removes the policy. The server answers a
request when its reply arrives, and replies arrive in any order.

Every event moves the page number as the pagination control describes (`page_after`). The page
can end past the last page of its filter only through a deletion or a change of the filter,
which keep the page number (`deleting_last_row_leaves_page_past_end`); without them it stays in
range of the server's count and of the total on screen (`page_in_range`,
`shown_page_in_range`). The server's table changes only through this page's deletions: the
model has no other writer.

The state records two facts about the run that the component does not keep: `shownFor`, the
parameters of the list request whose answer is on screen, and `lastSent`, those of the list
request sent last.
-/

namespace CloudreveAdmin

namespace Policy

/-- A storage policy in the server's table, with the file count and size that the list
reports for it in `statics`. -/
structure Row where
  id : Nat
  type : String
  files : Nat
  size : Nat
deriving DecidableEq, Repr

/-- The parameters `loadList` posts. -/
structure Params where
  page : Nat
  pageSize : Nat
  filter : String
deriving DecidableEq, Repr

/-- `conditions: filter === "all" ? {} : { type: filter }`. -/
def selects (filter : String) (row : Row) : Bool :=
  filter = "all" || row.type = filter

/-- The policies of a filter as the server orders them, `order_by: "id desc"`. -/
def ofFilter (stored : List Row) (filter : String) : List Row :=
  (stored.filter (selects filter)).reverse

/-- A request the page sends. -/
inductive Request where
  /-- `POST /admin/policy/list`. -/
  | list (params : Params)
  /-- `DELETE /admin/policy/:id`, whose success calls `loadList` with `reload`. -/
  | delete (id : Nat) (reload : Params)
deriving DecidableEq

/-- The server's answer: success, or the error the API layer rejects with. -/
inductive Reply where
  | ok
  | fail (message : String)

/-- The state of the page and of the server's table. -/
structure Page where
  page : Nat
  pageSize : Nat
  filter : String
  policies : List Row
  total : Nat
  notice : Option Notice
  inFlight : List Request
  stored : List Row
  shownFor : Option Params
  lastSent : Option Params

/-- The parameters of the render. -/
def Page.params (s : Page) : Params :=
  ⟨s.page, s.pageSize, s.filter⟩

/-- `loadList()` of a render with the parameters `params`. -/
def loadList (params : Params) (s : Page) : Page :=
  { s with inFlight := s.inFlight ++ [.list params], lastSent := some params }

/-- Setting the parameters, and the effect on `[page, pageSize, filter]` when one of them
changed. -/
def setParams (params : Params) (s : Page) : Page :=
  if params = s.params then s
  else
    loadList params
      { s with page := params.page, pageSize := params.pageSize, filter := params.filter }

/-- The page as it opens, its effect having sent the first list request. -/
def init (stored : List Row) : Page where
  page := 1
  pageSize := 10
  filter := "all"
  policies := []
  total := 0
  notice := none
  inFlight := [.list ⟨1, 10, "all"⟩]
  stored := stored
  shownFor := none
  lastSent := some ⟨1, 10, "all"⟩

/-- An action of the administrator or a reply of the server. -/
inductive Event where
  /-- The back arrow of `TablePagination`. -/
  | previousPage
  /-- The forward arrow of `TablePagination`. -/
  | nextPage
  /-- The rows-per-page select of `TablePagination`. -/
  | rowsPerPage (size : Nat)
  /-- The type select. -/
  | filter (value : String)
  /-- The button 重新整理. -/
  | refresh
  /-- The delete button of the row of policy `id`. -/
  | delete (id : Nat)
  /-- The server answers the request at `index` among those in flight. -/
  | reply (index : Nat) (answer : Reply)

/-- The values of the type select. -/
def filters : List String :=
  ["all", "local", "remote", "qiniu", "upyun", "oss", "cos", "onedrive", "s3"]

/-- The controls the page shows and does not disable. `TablePagination` disables its back arrow
on the first page and its forward arrow on page `⌈total / pageSize⌉` and after. -/
def enabled (s : Page) : Event → Bool
  | .previousPage => 1 < s.page
  | .nextPage => s.page * s.pageSize < s.total
  | .rowsPerPage size => size ∈ [10, 25, 100]
  | .filter value => value ∈ filters
  | .refresh => true
  | .delete id => s.policies.any (·.id = id)
  | .reply index _ => index < s.inFlight.length

/-- What the `.then` and `.catch` of a request do with its reply. -/
def receive (s : Page) : Request → Reply → Page
  | .list params, .ok =>
      let rows := ofFilter s.stored params.filter
      { s with policies := (rows.drop ((params.page - 1) * params.pageSize)).take params.pageSize,
               total := rows.length, shownFor := some params }
  | .delete id reload, .ok =>
      { loadList reload { s with stored := s.stored.filter (·.id ≠ id) } with
        notice := some ⟨"儲存策略已刪除", "success"⟩ }
  | _, .fail message => { s with notice := some ⟨message, "error"⟩ }

/-- What an event does. -/
def step (s : Page) : Event → Page
  | .previousPage => setParams { s.params with page := s.page - 1 } s
  | .nextPage => setParams { s.params with page := s.page + 1 } s
  | .rowsPerPage size => setParams { s.params with page := 1, pageSize := size } s
  | .filter value => setParams { s.params with filter := value } s
  | .refresh => loadList s.params s
  | .delete id => { s with inFlight := s.inFlight ++ [.delete id s.params] }
  | .reply index answer =>
      match s.inFlight.get? index with
      | some request => receive { s with inFlight := s.inFlight.eraseIdx index } request answer
      | none => s

/-- The page as a transition system. -/
def machine : Machine Page Event where
  enabled := enabled
  step := step

/-- The states the page reaches from the server's table `stored`. -/
def Reachable (stored : List Row) (s : Page) : Prop :=
  machine.Reachable (init stored) s

/-! ## The page number -/

@[simp] theorem Page.params_page (s : Page) : s.params.page = s.page := rfl
@[simp] theorem Page.params_pageSize (s : Page) : s.params.pageSize = s.pageSize := rfl
@[simp] theorem Page.params_filter (s : Page) : s.params.filter = s.filter := rfl

@[simp]
theorem loadList_page (params : Params) (s : Page) : (loadList params s).page = s.page := rfl

@[simp]
theorem setParams_page (params : Params) (s : Page) : (setParams params s).page = params.page := by
  unfold setParams
  split
  · rename_i same
    rw [same]
    rfl
  · rfl

@[simp]
theorem receive_page (s : Page) (request : Request) (answer : Reply) :
    (receive s request answer).page = s.page := by
  cases request <;> cases answer <;> rfl

theorem step_reply {s : Page} {index : Nat} {request : Request}
    (found : s.inFlight.get? index = some request) (answer : Reply) :
    step s (.reply index answer) =
      receive { s with inFlight := s.inFlight.eraseIdx index } request answer := by
  simp only [step, found]

/-- No event takes the page below 1. -/
theorem page_pos_step {s : Page} (positive : 1 ≤ s.page) {e : Event} (allowed : enabled s e) :
    1 ≤ (step s e).page := by
  cases e with
  | previousPage =>
      simp only [enabled, decide_eq_true_eq] at allowed
      simp [step]; omega
  | reply index answer =>
      simp only [step]
      split <;> simp [positive]
  | _ => simp [step, positive]

theorem Reachable.page_pos {stored : List Row} {s : Page} (reach : Reachable stored s) :
    1 ≤ s.page :=
  Machine.Reachable.induction machine reach (fun s => 1 ≤ s.page) (le_refl 1)
    fun _ _ positive allowed => page_pos_step positive allowed

/-- The page number after an event, as the pagination control describes it: one page back for
the back arrow, one page forward for the forward arrow, page 1 after a change of the rows per
page, and the same page after every other event. -/
def pageAfter (s : Page) : Event → Nat
  | .previousPage => s.page - 1
  | .nextPage => s.page + 1
  | .rowsPerPage _ => 1
  | _ => s.page

/-- Every event moves the page as `pageAfter` says. -/
theorem page_after (s : Page) (e : Event) : (step s e).page = pageAfter s e := by
  cases e with
  | reply index answer =>
      simp only [step]
      split <;> simp [pageAfter]
  | _ => simp [step, pageAfter]

/-- Eleven local policies. -/
def elevenLocal : List Row :=
  (List.range 11).map fun i => ⟨i + 1, "local", 0, 0⟩

/-- Goes to page 2 of `elevenLocal`, which holds one policy, and deletes that policy. -/
def deleteLastRow : List Event :=
  [.reply 0 .ok, .nextPage, .reply 0 .ok, .delete 1, .reply 0 .ok, .reply 0 .ok]

/-- Once the reload after the deletion has arrived, the page shows the answer for its own
parameters and is past the last page. -/
theorem deleting_last_row_leaves_page_past_end :
    ∃ s, machine.run (init elevenLocal) deleteLastRow = some s ∧ s.inFlight = [] ∧
      s.shownFor = some s.params ∧ ¬(s.page = 1 ∨ (s.page - 1) * s.pageSize < s.total) :=
  ⟨_, rfl, rfl, rfl, by decide⟩

/-- Page 2 of `elevenLocal`, then the type `cos`, which none of its policies has: once that list
has arrived, the page is past the last one as well. -/
example :
    ∃ s, machine.run (init elevenLocal)
        [.reply 0 .ok, .nextPage, .reply 0 .ok, .filter "cos", .reply 0 .ok] = some s ∧
      s.inFlight = [] ∧ s.shownFor = some s.params ∧
      ¬(s.page = 1 ∨ (s.page - 1) * s.pageSize < s.total) :=
  ⟨_, rfl, rfl, rfl, by decide⟩

/-! ## Browsing without deleting

Only two events can leave the page past the last page of its filter: a deletion, as above, and
the type select, which keeps the page number. Without them the forward arrow is the only way to
a later page, and it needs the total on screen, which is the server's count of the filter, to
go past the current page. -/

/-- The events other than the type select and the delete buttons. -/
def Event.browses : Event → Bool
  | .filter _ | .delete _ => false
  | _ => true

/-- The page when the administrator only moves between pages, changes the rows per page and
refreshes. -/
def browsing : Machine Page Event :=
  machine.restrict fun _ e => e.browses

/-- The number of policies of the page's filter in the server's table. -/
def Page.count (s : Page) : Nat :=
  (ofFilter s.stored s.filter).length

/-- The requests in flight are lists of the page's filter, the total on screen is the count of
the filter or the initial 0, and the count once a list has arrived, and the page is the first
or starts within the policies of the filter. -/
structure Browsing (s : Page) : Prop where
  lists : ∀ r ∈ s.inFlight, ∃ params, r = .list params ∧ params.filter = s.filter
  total : s.total = 0 ∨ s.total = s.count
  inRange : s.page = 1 ∨ (s.page - 1) * s.pageSize < s.count
  shown : s.shownFor ≠ none → s.total = s.count

theorem browsing_setParams {s : Page} (browsing : Browsing s) (page pageSize : Nat)
    (inRange : page = 1 ∨ (page - 1) * pageSize < s.count) :
    Browsing (setParams ⟨page, pageSize, s.filter⟩ s) := by
  obtain ⟨lists, total, -, shown⟩ := browsing
  unfold setParams
  split
  · rename_i same
    obtain ⟨rfl, rfl, -⟩ := Params.mk.inj same
    exact ⟨lists, total, inRange, shown⟩
  · refine ⟨fun r mem => ?_, total, inRange, shown⟩
    simp only [loadList, List.mem_append, List.mem_singleton] at mem
    rcases mem with old | rfl
    · exact lists r old
    · exact ⟨_, rfl, rfl⟩

theorem browsing_step {s : Page} (browsing : Browsing s) {e : Event} (allowed : enabled s e)
    (browses : e.browses) : Browsing (step s e) := by
  have kept := browsing
  obtain ⟨lists, total, inRange, shown⟩ := browsing
  cases e with
  | previousPage =>
      simp only [enabled, decide_eq_true_eq] at allowed
      refine browsing_setParams kept (s.page - 1) s.pageSize ?_
      rcases inRange with first | below
      · omega
      · exact .inr (lt_of_le_of_lt (Nat.mul_le_mul_right _ (by omega)) below)
  | nextPage =>
      simp only [enabled, decide_eq_true_eq] at allowed
      refine browsing_setParams kept (s.page + 1) s.pageSize (.inr ?_)
      rcases total with zero | counted
      · omega
      · simpa [counted] using allowed
  | rowsPerPage size => exact browsing_setParams kept 1 size (.inl rfl)
  | refresh =>
      refine ⟨fun r mem => ?_, total, inRange, shown⟩
      simp only [step, loadList, List.mem_append, List.mem_singleton] at mem
      rcases mem with old | rfl
      · exact lists r old
      · exact ⟨s.params, rfl, rfl⟩
  | reply index answer =>
      have found := List.get?_eq_get (by simpa [enabled] using allowed)
      rw [step_reply found]
      obtain ⟨params, listed, sameFilter⟩ := lists _ (List.get_mem _ _ _)
      rw [listed]
      have later : ∀ r ∈ s.inFlight.eraseIdx index,
          ∃ params, r = .list params ∧ params.filter = s.filter :=
        fun r mem => lists r (List.mem_of_mem_eraseIdx mem)
      cases answer with
      | ok =>
          have counted : (receive { s with inFlight := s.inFlight.eraseIdx index } (.list params)
              .ok).total = s.count := by simp [receive, Page.count, sameFilter]
          exact ⟨later, .inr counted, inRange, fun _ => counted⟩
      | fail message => exact ⟨later, total, inRange, shown⟩
  | filter value => simp [Event.browses] at browses
  | delete id => simp [Event.browses] at browses

/-- Without a deletion or a filter change, the page is the first one or starts within the
policies of its filter, whatever the order in which the replies arrive. -/
theorem Browsing.of_reachable {stored : List Row} {s : Page}
    (reach : browsing.Reachable (init stored) s) : Browsing s :=
  Machine.Reachable.induction browsing reach Browsing
    ⟨by simp [init], .inl rfl, .inl rfl, fun listed => absurd rfl listed⟩
    fun _ _ kept allowed => by
      simp only [browsing, Machine.restrict, Bool.and_eq_true] at allowed
      exact browsing_step kept allowed.1 allowed.2

theorem page_in_range {stored : List Row} {s : Page} (reach : browsing.Reachable (init stored) s) :
    s.page = 1 ∨ (s.page - 1) * s.pageSize < (ofFilter s.stored s.filter).length :=
  (Browsing.of_reachable reach).inRange

/-- Page 2 of `elevenLocal`, once its list has arrived. -/
def secondPageShown : Page :=
  (browsing.run (init elevenLocal) [.reply 0 .ok, .nextPage, .reply 0 .ok]).getD (init [])

theorem second_page_in_range :
    secondPageShown.page = 1 ∨
      (secondPageShown.page - 1) * secondPageShown.pageSize <
        (ofFilter secondPageShown.stored secondPageShown.filter).length :=
  @page_in_range elevenLocal secondPageShown ⟨[.reply 0 .ok, .nextPage, .reply 0 .ok], rfl⟩

/-- Without a deletion or a filter change, and whatever the order of the replies: once a list
has arrived, the page is the first one or starts within the total on screen, and every control
moves the page as `pageAfter` says, never below 1. -/
theorem shown_page_in_range {stored : List Row} {s : Page}
    (reach : browsing.Reachable (init stored) s) :
    (s.shownFor ≠ none → s.page = 1 ∨ (s.page - 1) * s.pageSize < s.total) ∧
      ∀ e, enabled s e → 1 ≤ (step s e).page ∧ (step s e).page = pageAfter s e := by
  obtain ⟨-, -, inRange, shown⟩ := Browsing.of_reachable reach
  exact ⟨fun listed => shown listed ▸ inRange, fun e allowed =>
    ⟨page_pos_step (@Reachable.page_pos stored s reach.of_restrict) allowed, page_after s e⟩⟩

theorem secondPage_moves_as_shown :
    (secondPageShown.shownFor ≠ none → secondPageShown.page = 1 ∨
        (secondPageShown.page - 1) * secondPageShown.pageSize < secondPageShown.total) ∧
      ∀ e, enabled secondPageShown e →
        1 ≤ (step secondPageShown e).page ∧
          (step secondPageShown e).page = pageAfter secondPageShown e :=
  @shown_page_in_range elevenLocal secondPageShown ⟨[.reply 0 .ok, .nextPage, .reply 0 .ok], rfl⟩

example : secondPageShown.page = 2 ∧ secondPageShown.total = 11 := ⟨rfl, rfl⟩

/-! ## Replies in the order of the requests -/

/-- The parameters of a list request. -/
def listParams : Request → Option Params
  | .list params => some params
  | .delete _ _ => none

/-- A reply that answers the oldest request in flight and succeeds. -/
def inOrder : Event → Bool
  | .reply index .ok => index = 0
  | .reply _ (.fail _) => false
  | _ => true

/-- The page when the server answers every request, in the order the requests were sent. -/
def orderly : Machine Page Event :=
  machine.restrict fun _ e => inOrder e

/-- The last list request in flight is the last one sent, and with none in flight the answer on
screen is that of the last one sent. -/
structure Settled (s : Page) : Prop where
  pending : ∀ params, latest listParams s.inFlight = some params → s.lastSent = some params
  shown : latest listParams s.inFlight = none → s.shownFor = s.lastSent

theorem settled_loadList (params : Params) (s : Page) : Settled (loadList params s) where
  pending _ found := by simpa [loadList, listParams] using found
  shown idle := by simp [loadList, listParams] at idle

theorem settled_init (stored : List Row) : Settled (init stored) :=
  settled_loadList ⟨1, 10, "all"⟩ { init stored with inFlight := [] }

theorem settled_step {s : Page} (settled : Settled s) {e : Event} (allowed : enabled s e)
    (ordered : inOrder e) : Settled (step s e) := by
  obtain ⟨pending, shown⟩ := settled
  cases e with
  | refresh => exact settled_loadList _ _
  | delete id =>
      exact ⟨by simpa [step, listParams] using pending, by simpa [step, listParams] using shown⟩
  | reply index answer =>
      cases answer with
      | fail => simp [inOrder] at ordered
      | ok =>
          simp only [inOrder, decide_eq_true_eq] at ordered
          subst ordered
          obtain ⟨request, rest, split⟩ :=
            List.exists_cons_of_length_pos (by simpa [enabled] using allowed)
          have found : s.inFlight.get? 0 = some request := by simp [split]
          rw [step_reply found]
          simp only [split, List.eraseIdx_cons_zero]
          cases request with
          | list params =>
              constructor
              · intro p later
                simp only [receive] at later ⊢
                exact pending p (by simp [split, later])
              · intro idle
                simp only [receive] at idle ⊢
                exact (pending params (by simp [split, idle, listParams])).symm
          | delete id reload =>
              have reloaded := settled_loadList reload { s with inFlight := rest }
              exact ⟨reloaded.pending, reloaded.shown⟩
  | _ =>
      simp only [step, setParams]
      split
      · exact ⟨pending, shown⟩
      · exact settled_loadList _ _

theorem settled_of_orderly {stored : List Row} {s : Page}
    (reach : orderly.Reachable (init stored) s) : Settled s :=
  Machine.Reachable.induction orderly reach Settled (settled_init stored)
    fun _ _ settled allowed => by
      simp only [orderly, Machine.restrict, Bool.and_eq_true] at allowed
      exact settled_step settled allowed.1 allowed.2

/-- When the server answers the requests in order, the page shows, once no list request is in
flight, the answer to the list request it sent last. -/
theorem shown_lastSent {stored : List Row} {s : Page} (reach : orderly.Reachable (init stored) s)
    (idle : ∀ params, .list params ∉ s.inFlight) : s.shownFor = s.lastSent :=
  (settled_of_orderly reach).shown <| latest_eq_none _ fun request mem => by
    cases request with
    | list params => exact absurd mem (idle params)
    | delete _ _ => rfl

/-! ## What the table shows

With the replies in order, the table is never stale: once no list request is in flight, it holds
the rows the server's current table gives for the parameters of the list request sent last
(`rows_for_last_request`). Those are the page's own parameters when no row is deleted
(`rows_for_own_params`). A deletion reloads with the parameters of the render the delete button
was clicked in, so a page change before its reply leaves the table showing another page. -/

/-- The rows the server answers a list request for `params` with, from its table `stored`. -/
def view (stored : List Row) (params : Params) : List Row :=
  ((ofFilter stored params.filter).drop ((params.page - 1) * params.pageSize)).take params.pageSize

/-- With no list request in flight, the table holds the server's current rows for the
parameters of the answer on screen, and the total is the count of their filter. -/
def Current (s : Page) : Prop :=
  latest listParams s.inFlight = none → ∃ params, s.shownFor = some params ∧
    s.policies = view s.stored params ∧ s.total = (ofFilter s.stored params.filter).length

theorem current_loadList (params : Params) (s : Page) : Current (loadList params s) := by
  intro idle
  simp [loadList, listParams] at idle

theorem current_step {s : Page} (current : Current s) {e : Event} (allowed : enabled s e)
    (ordered : inOrder e) : Current (step s e) := by
  cases e with
  | refresh => exact current_loadList _ _
  | delete id =>
      intro idle
      simp only [step, latest_append_singleton, listParams, Option.none_or] at idle
      exact current idle
  | reply index answer =>
      cases answer with
      | fail => simp [inOrder] at ordered
      | ok =>
          simp only [inOrder, decide_eq_true_eq] at ordered
          subst ordered
          obtain ⟨request, rest, split⟩ :=
            List.exists_cons_of_length_pos (by simpa [enabled] using allowed)
          have found : s.inFlight.get? 0 = some request := by simp [split]
          rw [step_reply found]
          cases request with
          | list params => exact fun _ => ⟨params, rfl, rfl, rfl⟩
          | delete id reload => intro idle; simp [receive, loadList, listParams] at idle
  | _ =>
      simp only [step, setParams]
      split
      · exact current
      · exact current_loadList _ _

theorem current_of_orderly {stored : List Row} {s : Page}
    (reach : orderly.Reachable (init stored) s) : Current s :=
  Machine.Reachable.induction orderly reach Current (fun idle => by simp [init, listParams] at idle)
    fun _ _ current allowed => by
      simp only [orderly, Machine.restrict, Bool.and_eq_true] at allowed
      exact current_step current allowed.1 allowed.2

theorem latest_listParams_of_idle {s : Page} (idle : ∀ params, .list params ∉ s.inFlight) :
    latest listParams s.inFlight = none :=
  latest_eq_none _ fun request mem => by
    cases request with
    | list params => exact absurd mem (idle params)
    | delete _ _ => rfl

/-- When the server answers the requests in order, the table shows, once no list request is in
flight, the rows of the server's current table for the parameters of the list request sent
last, and the total of their filter. -/
theorem rows_for_last_request {stored : List Row} {s : Page}
    (reach : orderly.Reachable (init stored) s) (idle : ∀ params, .list params ∉ s.inFlight) :
    ∃ params, s.lastSent = some params ∧ s.shownFor = some params ∧
      s.policies = view s.stored params ∧ s.total = (ofFilter s.stored params.filter).length := by
  obtain ⟨params, shown, rows, total⟩ := current_of_orderly reach (latest_listParams_of_idle idle)
  exact ⟨params, (shown_lastSent reach idle).symm.trans shown, shown, rows, total⟩

/-- Whether an event is a click on a delete button. -/
def Event.deletes : Event → Bool
  | .delete _ => true
  | _ => false

/-- The page when the server answers in order and no row is deleted. -/
def steady : Machine Page Event :=
  orderly.restrict fun _ e => !e.deletes

/-- Without a deletion every request in flight is a list request, and the last one sent is for
the page's own parameters. -/
structure OwnParams (s : Page) : Prop where
  lists : ∀ r ∈ s.inFlight, ∃ params, r = .list params
  lastSent : s.lastSent = some s.params

theorem ownParams_loadList {s : Page} (lists : ∀ r ∈ s.inFlight, ∃ params, r = .list params)
    {params : Params} (own : s.params = params) : OwnParams (loadList params s) := by
  subst own
  refine ⟨fun r mem => ?_, rfl⟩
  simp only [loadList, List.mem_append, List.mem_singleton] at mem
  rcases mem with old | rfl
  · exact lists r old
  · exact ⟨_, rfl⟩

theorem ownParams_step {s : Page} (own : OwnParams s) {e : Event} (allowed : enabled s e)
    (keeps : e.deletes = false) : OwnParams (step s e) := by
  obtain ⟨lists, lastSent⟩ := own
  cases e with
  | previousPage | nextPage | rowsPerPage _ | filter _ =>
      simp only [step, setParams]
      split
      · exact ⟨lists, lastSent⟩
      · exact ownParams_loadList (by exact lists) rfl
  | refresh => exact ownParams_loadList lists rfl
  | delete id => simp [Event.deletes] at keeps
  | reply index answer =>
      have found := List.get?_eq_get (by simpa [enabled] using allowed)
      rw [step_reply found]
      obtain ⟨params, listed⟩ := lists _ (List.get_mem _ _ _)
      rw [listed]
      have later : ∀ r ∈ s.inFlight.eraseIdx index, ∃ params, r = .list params :=
        fun r mem => lists r (List.mem_of_mem_eraseIdx mem)
      cases answer <;> exact ⟨later, lastSent⟩

/-- When the server answers the requests in order and no row is deleted, the table shows,
once no list request is in flight, the rows of the server's table for the page's own
parameters, and the total of the page's filter. -/
theorem rows_for_own_params {stored : List Row} {s : Page}
    (reach : steady.Reachable (init stored) s) (idle : ∀ params, .list params ∉ s.inFlight) :
    s.shownFor = some s.params ∧ s.policies = view s.stored s.params ∧
      s.total = (ofFilter s.stored s.filter).length := by
  have ordered : orderly.Reachable (init stored) s := reach.of_restrict
  have own := Machine.Reachable.induction steady reach OwnParams
    ⟨fun r mem => ⟨_, List.mem_singleton.mp mem⟩, rfl⟩
    fun _ _ own allowed => by
      simp only [steady, orderly, Machine.restrict, Bool.and_eq_true, Bool.not_eq_true'] at allowed
      exact ownParams_step own allowed.1.1 allowed.2
  obtain ⟨params, shown, rows, total⟩ :=
    current_of_orderly ordered (latest_listParams_of_idle idle)
  obtain rfl : params = s.params :=
    Option.some.inj (shown.symm.trans ((shown_lastSent ordered idle).trans own.lastSent))
  exact ⟨shown, rows, total⟩

/-- Goes to page 2 of `elevenLocal` and back to page 1, each list answered in order. -/
def backAndForth : List Event :=
  [.reply 0 .ok, .nextPage, .reply 0 .ok, .previousPage, .reply 0 .ok]

/-- The page after `backAndForth`. -/
def firstPageAgain : Page :=
  (steady.run (init elevenLocal) backAndForth).getD (init [])

theorem firstPageAgain_rows :
    firstPageAgain.shownFor = some firstPageAgain.params ∧
      firstPageAgain.policies = view firstPageAgain.stored firstPageAgain.params ∧
      firstPageAgain.total = (ofFilter firstPageAgain.stored firstPageAgain.filter).length :=
  @rows_for_own_params elevenLocal firstPageAgain ⟨backAndForth, rfl⟩ fun _ mem => by cases mem

/-- A deletion on page 2 whose reply arrives after the administrator went back to page 1: with
every reply in order, the table ends up with the rows of page 2 under page 1. -/
example :
    ∃ s, orderly.run (init elevenLocal)
        [.reply 0 .ok, .nextPage, .reply 0 .ok, .delete 1, .previousPage, .reply 0 .ok,
          .reply 0 .ok, .reply 0 .ok] = some s ∧
      s.inFlight = [] ∧ s.page = 1 ∧ s.shownFor = some ⟨2, 10, "all"⟩ ∧ s.policies = [] :=
  ⟨_, rfl, rfl, rfl, rfl, rfl⟩

end Policy

end CloudreveAdmin
