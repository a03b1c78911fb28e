import Mathlib.Algebra.Order.Group.Int
import VoiceAssistants.Async.Run
import VoiceAssistants.Collections.FixedWindows
import VoiceAssistants.Sql.Table
import VoiceAssistants.Text

/-!
# The budget of integration actions (`db/integration_limits.py`, migration 018)

`consume_integration_action_budget` is one transaction: an upsert of the company's row, and, if the upsert
returns nothing, a second statement that computes the `Retry-After`.  The upsert locks the row whether or not its
`WHERE` clause holds, so the second statement sees the same row, and both are one step here.

`NOW()` is the start of the transaction.  A run (`LimitState`) therefore starts a transaction with the time of
the clock and finishes it later, in any order with the others; one that is aborted changes nothing.  Times are
microseconds.

* `consume_counts` — the row of a company and action is a fixed-window counter.
* `late_attempts_exceed_budget` — a transaction that starts before another one rolls the window over and finishes
  after it is counted in the new window: the grants of a run may exceed twice the limit.
* `integration_budget` — what a run keeps to.
-/

namespace VoiceAssistants
namespace Db

open Sql Async Collections

/-- A row of `integration_action_limits`. -/
structure LimitRow where
  companyId : Uuid
  action : String
  windowStartedAt : Int
  attemptCount : Nat
  updatedAt : Int
  deriving DecidableEq, Repr

/-- `PRIMARY KEY (company_id, action)`. -/
def LimitRow.key (row : LimitRow) : Uuid × String :=
  (row.companyId, row.action)

/-- The arguments of `consume_integration_action_budget`. -/
structure BudgetArgs where
  companyId : String
  action : String
  limit : Int
  windowSeconds : Int
  deriving DecidableEq, Repr

/-- The exceptions of the operation. -/
inductive BudgetError
  | valueError (message : String)
  | runtimeError (message : String)
  deriving DecidableEq, Repr

/-- `window_seconds * INTERVAL '1 second'`. -/
def windowWidth (windowSeconds : Int) : Int :=
  windowSeconds * 1000000

/-- `window_started_at <= NOW() - window`. -/
def LimitRow.passed (row : LimitRow) (now windowSeconds : Int) : Bool :=
  decide (row.windowStartedAt ≤ now - windowWidth windowSeconds)

/-- The `SET` clause of the upsert. -/
def LimitRow.recordAttempt (row : LimitRow) (now windowSeconds : Int) : LimitRow :=
  { row with
    windowStartedAt := if row.passed now windowSeconds then now else row.windowStartedAt
    attemptCount := if row.passed now windowSeconds then 1 else row.attemptCount + 1
    updatedAt := now }

/-- The upsert; `none` if it returns no row. -/
def upsertAttempt (now : Int) (company : Uuid) (args : BudgetArgs) (rows : List LimitRow) :
    Option (List LimitRow) :=
  match insertAbsent LimitRow.key ⟨company, args.action, now, 1, now⟩ rows with
  | some rows => some rows
  | none =>
      let condition (row : LimitRow) : Bool :=
        decide (row.key = (company, args.action)) &&
          (row.passed now args.windowSeconds || decide ((row.attemptCount : Int) < args.limit))
      if affected condition rows = 0 then none
      else some (updateWhere condition (fun row => row.recordAttempt now args.windowSeconds) rows)

/-- `CEIL` of a number of microseconds, in seconds. -/
def ceilSeconds (microseconds : Int) : Int :=
  -(-microseconds / 1000000)

/-- The second statement: `GREATEST(1, CEIL(…))`. -/
def LimitRow.retryAfter (row : LimitRow) (now windowSeconds : Int) : Int :=
  max 1 (ceilSeconds (row.windowStartedAt + windowWidth windowSeconds - now))

/-- `consume_integration_action_budget`: `none` is a granted attempt, `some` the `Retry-After` of a refused one. -/
def consumeIntegrationActionBudget (now : Int) (args : BudgetArgs) (rows : List LimitRow) :
    Except BudgetError (Option Int × List LimitRow) :=
  if args.action ∉ ["threecx_test", "threecx_save"] then
    .error (.valueError "unsupported integration action budget")
  else if ¬ ((1 ≤ args.limit ∧ args.limit ≤ 100) ∧ 60 ≤ args.windowSeconds ∧ args.windowSeconds ≤ 86400) then
    .error (.valueError "integration action budget is outside safe bounds")
  else
    match Uuid.parse args.companyId with
    | none => .error (.valueError "badly formed hexadecimal UUID string")
    | some company =>
        match upsertAttempt now company args rows with
        | some rows => .ok (none, rows)
        | none =>
            match selectKey LimitRow.key (company, args.action) rows with
            | none => .error (.runtimeError "integration action budget row disappeared")
            | some row => .ok (some (row.retryAfter now args.windowSeconds), rows)

/-- `_enforce_threecx_budget`: the arguments of the two 3CX actions. -/
def threecxBudget (companyId action : String) : BudgetArgs :=
  ⟨companyId, action, if action = "threecx_test" then 5 else 3, 900⟩

/-! ## One attempt -/

/-- The window of a row. -/
def LimitRow.window (row : LimitRow) : Window Int :=
  ⟨row.windowStartedAt, row.attemptCount⟩

/-- The window of a company and action. -/
def windowOf (key : Uuid × String) (rows : List LimitRow) : Option (Window Int) :=
  (selectKey LimitRow.key key rows).map LimitRow.window

/-- The window of a key after a row has been appended under a free key. -/
theorem windowOf_append {rows : List LimitRow} {new : LimitRow} (hfree : selectKey LimitRow.key new.key rows = none)
    (key : Uuid × String) :
    windowOf key (rows ++ [new]) = if key = new.key then some new.window else windowOf key rows := by
  unfold windowOf
  by_cases hkey : key = new.key
  · subst hkey
    rw [if_pos rfl]
    unfold selectKey at hfree ⊢
    rw [List.find?_append, hfree]
    simp
  · rw [if_neg hkey]
    unfold selectKey
    rw [List.find?_append]
    have hnew : List.find? (fun row : LimitRow => decide (row.key = key)) [new] = none := by
      simpa using fun h => hkey h.symm
    rw [hnew, Option.or_none]

/-- What a completed attempt does: it is an attempt of the counter of its own key, it changes no other, and a
refused one changes nothing and says how long the window still lasts. -/
structure AttemptFacts (now : Int) (args : BudgetArgs) (rows : List LimitRow) (result : Option Int)
    (rows' : List LimitRow) (key : Uuid × String) : Prop where
  keyed : Keyed LimitRow.key rows'
  others : ∀ other, other ≠ key → windowOf other rows' = windowOf other rows
  granted : result = none → ∃ window,
    attempt args.limit.toNat (windowWidth args.windowSeconds) now (windowOf key rows) = some window ∧
      windowOf key rows' = some window
  refused : ∀ retry, result = some retry → rows' = rows ∧
    attempt args.limit.toNat (windowWidth args.windowSeconds) now (windowOf key rows) = none ∧
    ∃ row, selectKey LimitRow.key key rows = some row ∧ retry = row.retryAfter now args.windowSeconds

/-- The upsert of a key that has a row. -/
theorem upsertAttempt_existing (now : Int) {company : Uuid} {args : BudgetArgs} {rows : List LimitRow}
    {row : LimitRow} (hkeyed : Keyed LimitRow.key rows)
    (hrow : selectKey LimitRow.key (company, args.action) rows = some row) :
    (row.passed now args.windowSeconds = true ∨ (row.attemptCount : Int) < args.limit →
      ∃ rows', upsertAttempt now company args rows = some rows' ∧ Keyed LimitRow.key rows' ∧
        windowOf (company, args.action) rows' = some (row.recordAttempt now args.windowSeconds).window ∧
        ∀ other, other ≠ (company, args.action) → windowOf other rows' = windowOf other rows) ∧
    (¬ (row.passed now args.windowSeconds = true ∨ (row.attemptCount : Int) < args.limit) →
      upsertAttempt now company args rows = none) := by
  have hmem := selectKey_mem hrow
  have hkey : row.key = (company, args.action) := selectKey_key hrow
  have hinsert : insertAbsent LimitRow.key ⟨company, args.action, now, 1, now⟩ rows = none := by
    have htaken : selectKey LimitRow.key (LimitRow.key ⟨company, args.action, now, 1, now⟩) rows = some row := hrow
    simp only [insertAbsent, htaken]
  let condition (other : LimitRow) : Bool :=
    decide (other.key = (company, args.action)) &&
      (other.passed now args.windowSeconds || decide ((other.attemptCount : Int) < args.limit))
  have hupsert : upsertAttempt now company args rows =
      if affected condition rows = 0 then none
      else some (updateWhere condition (fun other => other.recordAttempt now args.windowSeconds) rows) := by
    simp only [upsertAttempt, hinsert]
    rfl
  have hkeep : ∀ other : LimitRow, (other.recordAttempt now args.windowSeconds).key = other.key := fun _ => rfl
  rw [hupsert]
  constructor
  · intro hallowed
    have hcondition : condition row = true := by
      simpa [condition, hkey] using hallowed
    have hpositive : 0 < affected condition rows := List.countP_pos_iff.mpr ⟨row, hmem, hcondition⟩
    refine ⟨_, if_neg (Nat.ne_of_gt hpositive), ?_, ?_, ?_⟩
    · exact keyed_updateWhere hkeep hkeyed
    · unfold windowOf
      rw [selectKey_updateWhere hkeep, hrow, Option.map_some, Option.map_some, if_pos hcondition]
    · intro other hother
      unfold windowOf
      rw [selectKey_updateWhere hkeep]
      cases hselected : selectKey LimitRow.key other rows with
      | none => rfl
      | some found =>
          have hfound : found.key = other := selectKey_key hselected
          have hskip : condition found ≠ true := by
            intro htrue
            have hsame : found.key = (company, args.action) := by
              have hboth := Bool.and_eq_true_iff.mp htrue
              exact of_decide_eq_true hboth.1
            exact hother (hfound.symm.trans hsame)
          rw [Option.map_some, if_neg hskip]
  · intro hrefused
    have hnone : affected condition rows = 0 := by
      apply List.countP_eq_zero.mpr
      intro other hother htrue
      obtain ⟨hsame, hallowed⟩ := Bool.and_eq_true_iff.mp htrue
      obtain rfl : other = row := hkeyed.eq_of_key hother hmem ((of_decide_eq_true hsame).trans hkey.symm)
      exact hrefused (by simpa using hallowed)
    rw [if_pos hnone]

/-- The change of a row that may be attempted is the attempt of its window. -/
theorem attempt_window {limit : Nat} {now windowSeconds : Int} (row : LimitRow) :
    attempt limit (windowWidth windowSeconds) now (some row.window) =
      if row.passed now windowSeconds = true ∨ row.attemptCount < limit then
        some (row.recordAttempt now windowSeconds).window
      else none := by
  unfold attempt
  by_cases hpassed : row.windowStartedAt ≤ now - windowWidth windowSeconds
  · simp [LimitRow.window, LimitRow.recordAttempt, LimitRow.passed, hpassed]
  · by_cases hroom : row.attemptCount < limit
    · simp [LimitRow.window, LimitRow.recordAttempt, LimitRow.passed, hpassed, hroom]
    · simp [LimitRow.window, LimitRow.passed, hpassed, hroom]

/-- **The row of a company and action is a fixed-window counter.** -/
theorem consume_counts {now : Int} {args : BudgetArgs} {rows rows' : List LimitRow} {result : Option Int}
    (hkeyed : Keyed LimitRow.key rows)
    (h : consumeIntegrationActionBudget now args rows = .ok (result, rows')) :
    ∃ company, Uuid.parse args.companyId = some company ∧ 1 ≤ args.limit ∧ 60 ≤ args.windowSeconds ∧
      AttemptFacts now args rows result rows' (company, args.action) := by
  unfold consumeIntegrationActionBudget at h
  split at h
  · cases h
  split at h
  · cases h
  rename_i hbounds
  have hbounds := not_not.mp hbounds
  split at h
  · cases h
  rename_i company hcompany
  refine ⟨company, hcompany, hbounds.1.1, hbounds.2.1, ?_⟩
  have hlimit : ∀ row : LimitRow, ((row.attemptCount : Int) < args.limit ↔ row.attemptCount < args.limit.toNat) := by
    intro row
    omega
  cases hrow : selectKey LimitRow.key (company, args.action) rows with
  | none =>
      have hupsert : upsertAttempt now company args rows =
          some (rows ++ [⟨company, args.action, now, 1, now⟩]) := by
        have hfree : selectKey LimitRow.key (LimitRow.key ⟨company, args.action, now, 1, now⟩) rows = none := hrow
        simp only [upsertAttempt, insertAbsent, hfree]
      rw [hupsert] at h
      obtain ⟨rfl, rfl⟩ := Prod.mk.inj (Except.ok.inj h)
      have hfree : selectKey LimitRow.key (LimitRow.key ⟨company, args.action, now, 1, now⟩) rows = none := hrow
      constructor
      case keyed => exact keyed_append hkeyed (selectKey_eq_none.mp hrow)
      case others =>
        intro other hother
        have hne : ¬ other = LimitRow.key ⟨company, args.action, now, 1, now⟩ := hother
        rw [windowOf_append hfree, if_neg hne]
      case granted =>
        intro _
        refine ⟨⟨now, 1⟩, ?_, ?_⟩
        · simp only [windowOf, hrow, Option.map_none, attempt]
        · rw [windowOf_append hfree]
          exact if_pos rfl
      case refused =>
        intro retry hretry
        cases hretry
  | some row =>
      have hwindow : windowOf (company, args.action) rows = some row.window := by
        simp only [windowOf, hrow, Option.map_some]
      obtain ⟨hgrants, hrefuses⟩ := upsertAttempt_existing now hkeyed hrow
      by_cases hallowed : row.passed now args.windowSeconds = true ∨ (row.attemptCount : Int) < args.limit
      · obtain ⟨rows₁, hupsert, hkeyed₁, hwindow₁, hothers⟩ := hgrants hallowed
        rw [hupsert] at h
        obtain ⟨rfl, rfl⟩ := Prod.mk.inj (Except.ok.inj h)
        constructor
        case keyed => exact hkeyed₁
        case others => exact hothers
        case granted =>
          intro _
          refine ⟨_, ?_, hwindow₁⟩
          rw [hwindow, attempt_window, if_pos (hallowed.imp_right (hlimit row).mp)]
        case refused =>
          intro retry hretry
          cases hretry
      · rw [hrefuses hallowed, hrow] at h
        obtain ⟨rfl, rfl⟩ := Prod.mk.inj (Except.ok.inj h)
        constructor
        case keyed => exact hkeyed
        case others => exact fun _ _ => rfl
        case granted =>
          intro hnone
          cases hnone
        case refused =>
          intro retry hretry
          obtain rfl := Option.some.inj hretry
          refine ⟨rfl, ?_, row, hrow, rfl⟩
          rw [hwindow, attempt_window, if_neg]
          rintro (hpassed | hroom)
          · exact hallowed (.inl hpassed)
          · exact hallowed (.inr ((hlimit row).mpr hroom))

/-- The ceiling is not less than the number. -/
theorem le_ceilSeconds (microseconds : Int) : microseconds ≤ ceilSeconds microseconds * 1000000 := by
  unfold ceilSeconds
  omega

/-- A refused caller that waits as long as it was told, with the row as it was, is granted. -/
theorem granted_after_retry {now later : Int} {args : BudgetArgs} {rows rows' laterRows : List LimitRow} {retry : Int}
    {key : Uuid × String} (hparse : Uuid.parse args.companyId = some key.1) (haction : args.action = key.2)
    (hkeyed : Keyed LimitRow.key rows) (hlaterKeyed : Keyed LimitRow.key laterRows)
    (hrefused : consumeIntegrationActionBudget now args rows = .ok (some retry, rows'))
    (hsame : windowOf key laterRows = windowOf key rows) (hlater : now + retry * 1000000 ≤ later) :
    ∃ granted, consumeIntegrationActionBudget later args laterRows = .ok (none, granted) := by
  obtain ⟨company, hcompany, -, -, hfacts⟩ := consume_counts hkeyed hrefused
  obtain rfl : company = key.1 := Option.some.inj (hcompany.symm.trans hparse)
  obtain ⟨-, -, row, hrow, hretry⟩ := hfacts.refused retry rfl
  -- The row is still in the same window, and that window has passed.
  have hwindow : windowOf (key.1, args.action) laterRows = some row.window := by
    rw [haction]
    have hbefore : windowOf (key.1, args.action) rows = some row.window := by
      simp only [windowOf, hrow, Option.map_some]
    rw [haction] at hbefore
    exact hsame.trans hbefore
  obtain ⟨laterRow, hlaterRow, hlaterWindow⟩ := Option.map_eq_some_iff.mp hwindow
  have hstart : laterRow.windowStartedAt = row.windowStartedAt := congrArg Window.startedAt hlaterWindow
  have hpassed : laterRow.passed later args.windowSeconds = true := by
    have hceil := le_ceilSeconds (row.windowStartedAt + windowWidth args.windowSeconds - now)
    have hmax : ceilSeconds (row.windowStartedAt + windowWidth args.windowSeconds - now) ≤ retry := by
      rw [hretry]
      exact Int.le_max_right _ _
    unfold LimitRow.passed
    rw [hstart]
    apply decide_eq_true
    omega
  obtain ⟨granted, hupsert, -⟩ := (upsertAttempt_existing later hlaterKeyed hlaterRow).1 (.inl hpassed)
  refine ⟨granted, ?_⟩
  unfold consumeIntegrationActionBudget at hrefused ⊢
  split at hrefused
  · cases hrefused
  rename_i hsupported
  split at hrefused
  · cases hrefused
  rename_i hbounds
  rw [if_neg hsupported, if_neg hbounds, hparse]
  simp only [hupsert]

/-! ## Any interleaving -/

/-- A transaction that has started and not upserted yet; `now` is its `NOW()`. -/
structure BudgetTransaction where
  args : BudgetArgs
  now : Int
  deriving DecidableEq, Repr

/-- The clock of the database, the table, the open transactions, and the grants made so far in the order of
their upserts. -/
structure LimitState where
  clock : Int
  rows : List LimitRow
  pending : List BudgetTransaction
  grants : List ((Uuid × String) × Collections.Grant Int)
  deriving DecidableEq, Repr

/-- The clock moves on, a transaction starts, finishes, or is aborted. -/
inductive LimitAction
  | tick (clock : Int)
  | start (args : BudgetArgs)
  | finish (index : Nat)
  | abort (index : Nat)
  deriving DecidableEq, Repr

/-- The call is about this company and action. -/
def BudgetArgs.addresses (args : BudgetArgs) (key : Uuid × String) : Prop :=
  Uuid.parse args.companyId = some key.1 ∧ args.action = key.2

/-- The grant of a finished transaction. -/
def BudgetTransaction.grant (transaction : BudgetTransaction) (rows : List LimitRow) :
    List ((Uuid × String) × Collections.Grant Int) :=
  match Uuid.parse transaction.args.companyId with
  | none => []
  | some company =>
      match windowOf (company, transaction.args.action) rows with
      | none => []
      | some window => [((company, transaction.args.action), ⟨transaction.now, window.startedAt⟩)]

namespace LimitState

/-- The migrated table. -/
def initial (clock : Int) : LimitState :=
  ⟨clock, [], [], []⟩

/-- The state after the upsert of a transaction. -/
def finish (s : LimitState) (index : Nat) (transaction : BudgetTransaction) : LimitState :=
  let pending := s.pending.eraseIdx index
  match consumeIntegrationActionBudget transaction.now transaction.args s.rows with
  | .error _ => { s with pending := pending }
  | .ok (some _, rows) => { s with pending := pending, rows := rows }
  | .ok (none, rows) =>
      { s with pending := pending, rows := rows, grants := s.grants ++ transaction.grant rows }

/-- One step of a run. -/
def step (s : LimitState) : LimitAction → Option LimitState
  | .tick clock => if s.clock ≤ clock then some { s with clock := clock } else none
  | .start args => some { s with pending := s.pending ++ [⟨args, s.clock⟩] }
  | .finish index => (s.pending[index]?).map fun transaction => s.finish index transaction
  | .abort index => some { s with pending := s.pending.eraseIdx index }

/-- The grants of a company and action. -/
def grantsOf (s : LimitState) (key : Uuid × String) : List (Collections.Grant Int) :=
  (s.grants.filter fun grant => grant.1 = key).map Prod.snd

/-- The counter of a company and action. -/
def counterOf (s : LimitState) (key : Uuid × String) : Counter Int :=
  ⟨windowOf key s.rows, s.grantsOf key⟩

end LimitState

/-- Every call about this company and action has this limit and this window. -/
def Budgeted (key : Uuid × String) (limit : Nat) (windowSeconds : Int) : LimitAction → Prop
  | .start args => args.addresses key → args.limit = limit ∧ args.windowSeconds = windowSeconds
  | _ => True

/-- No call about this company and action finishes. -/
def Alone (key : Uuid × String) (s : LimitState) : LimitAction → Prop
  | .finish index => ∀ transaction, s.pending[index]? = some transaction → ¬ transaction.args.addresses key
  | _ => True

/-- What finishing a transaction does to the counters: an attempt for the key of the transaction, if at all. -/
theorem finish_counters {s : LimitState} (index : Nat) (transaction : BudgetTransaction)
    (hkeyed : Keyed LimitRow.key s.rows) :
    Keyed LimitRow.key (s.finish index transaction).rows ∧
    ∀ key, (s.finish index transaction).counterOf key = s.counterOf key ∨
      (transaction.args.addresses key ∧ 1 ≤ transaction.args.limit ∧ 60 ≤ transaction.args.windowSeconds ∧
        (s.finish index transaction).counterOf key =
          (s.counterOf key).attempt transaction.args.limit.toNat (windowWidth transaction.args.windowSeconds)
            transaction.now) := by
  unfold LimitState.finish
  cases hconsume : consumeIntegrationActionBudget transaction.now transaction.args s.rows with
  | error error => exact ⟨hkeyed, fun key => .inl rfl⟩
  | ok outcome =>
      obtain ⟨result, rows⟩ := outcome
      obtain ⟨company, hcompany, hlimit, hwidth, hfacts⟩ := consume_counts hkeyed hconsume
      cases result with
      | some retry =>
          obtain ⟨rfl, -⟩ := hfacts.refused retry rfl
          exact ⟨hkeyed, fun key => .inl rfl⟩
      | none =>
          refine ⟨hfacts.keyed, ?_⟩
          intro key
          obtain ⟨window, hattempt, hwindow⟩ := hfacts.granted rfl
          have hgrant : transaction.grant rows =
              [((company, transaction.args.action), ⟨transaction.now, window.startedAt⟩)] := by
            simp only [BudgetTransaction.grant, hcompany, hwindow]
          by_cases hkey : (company, transaction.args.action) = key
          · right
            subst hkey
            refine ⟨⟨hcompany, rfl⟩, hlimit, hwidth, ?_⟩
            simp only [LimitState.counterOf, Counter.attempt, hattempt, hwindow]
            -- the window is that of the attempt, and its grant comes last
            apply congrArg (Counter.mk (some window))
            simp [LimitState.grantsOf, hgrant]
          · left
            simp only [LimitState.counterOf, hfacts.others key (fun h => hkey h.symm)]
            apply congrArg (Counter.mk (windowOf key s.rows))
            simp [LimitState.grantsOf, hgrant, hkey]

/-- The invariant of a run for one company and action. -/
structure LimitInvariant (key : Uuid × String) (limit : Nat) (windowSeconds : Int) (s : LimitState) : Prop where
  keyed : Keyed LimitRow.key s.rows
  budgeted : ∀ transaction ∈ s.pending, transaction.args.addresses key →
    transaction.args.limit = limit ∧ transaction.args.windowSeconds = windowSeconds
  valid : (s.counterOf key).Valid limit (windowWidth windowSeconds)

theorem LimitInvariant.step {key : Uuid × String} {limit : Nat} {windowSeconds : Int} {s s' : LimitState}
    {action : LimitAction} (h : LimitInvariant key limit windowSeconds s)
    (hbudgeted : Budgeted key limit windowSeconds action) (htaken : s.step action = some s') :
    LimitInvariant key limit windowSeconds s' := by
  cases action with
  | tick clock =>
      simp only [LimitState.step] at htaken
      split at htaken
      · obtain rfl := Option.some.inj htaken
        exact ⟨h.keyed, h.budgeted, h.valid⟩
      · cases htaken
  | start args =>
      obtain rfl := Option.some.inj htaken
      refine ⟨h.keyed, ?_, h.valid⟩
      intro transaction hmem haddresses
      rcases List.mem_append.mp hmem with hold | hnew
      · exact h.budgeted transaction hold haddresses
      · obtain rfl := List.mem_singleton.mp hnew
        exact hbudgeted haddresses
  | finish index =>
      obtain ⟨transaction, hpending, rfl⟩ := Option.map_eq_some_iff.mp htaken
      obtain ⟨hkeyed, hcounters⟩ := finish_counters index transaction h.keyed
      refine ⟨hkeyed, ?_, ?_⟩
      · intro other hmem haddresses
        have hleft : (s.finish index transaction).pending = s.pending.eraseIdx index := by
          unfold LimitState.finish
          split <;> rfl
        rw [hleft] at hmem
        exact h.budgeted other (List.mem_of_mem_eraseIdx hmem) haddresses
      · rcases hcounters key with hsame | ⟨haddresses, hlimit, hwidth, hattempt⟩
        · rw [hsame]
          exact h.valid
        · obtain ⟨hargs, hseconds⟩ := h.budgeted transaction (List.mem_of_getElem? hpending) haddresses
          rw [hattempt, hargs, hseconds, Int.toNat_natCast]
          apply h.valid.attempt
          · omega
          · unfold windowWidth
            omega
  | abort index =>
      obtain rfl := Option.some.inj htaken
      refine ⟨h.keyed, ?_, h.valid⟩
      intro other hmem haddresses
      exact h.budgeted other (List.mem_of_mem_eraseIdx hmem) haddresses

theorem limitInvariant_initial (key : Uuid × String) (limit : Nat) (windowSeconds clock : Int) :
    LimitInvariant key limit windowSeconds (LimitState.initial clock) := by
  constructor
  case keyed => exact List.nodup_nil
  case budgeted =>
    intro transaction hmem
    cases hmem
  case valid => exact Counter.valid_initial

/-- While no call about the key finishes, its window stays. -/
theorem windowOf_alone {key : Uuid × String} {s later : LimitState} (hkeyed : Keyed LimitRow.key s.rows)
    (hrun : Reaches LimitState.step (Alone key) s later) :
    Keyed LimitRow.key later.rows ∧ windowOf key later.rows = windowOf key s.rows := by
  refine hrun.invariant (I := fun t => Keyed LimitRow.key t.rows ∧ windowOf key t.rows = windowOf key s.rows)
    ⟨hkeyed, rfl⟩ ?_
  intro t action u ⟨htkeyed, htwindow⟩ halone htaken
  cases action with
  | tick clock =>
      simp only [LimitState.step] at htaken
      split at htaken
      · obtain rfl := Option.some.inj htaken
        exact ⟨htkeyed, htwindow⟩
      · cases htaken
  | start args =>
      obtain rfl := Option.some.inj htaken
      exact ⟨htkeyed, htwindow⟩
  | finish index =>
      obtain ⟨transaction, hpending, rfl⟩ := Option.map_eq_some_iff.mp htaken
      obtain ⟨hkeyed', hcounters⟩ := finish_counters index transaction htkeyed
      refine ⟨hkeyed', ?_⟩
      rcases hcounters key with hsame | ⟨haddresses, -⟩
      · exact (congrArg Counter.window hsame).trans htwindow
      · exact absurd haddresses (halone transaction hpending)
  | abort index =>
      obtain rfl := Option.some.inj htaken
      exact ⟨htkeyed, htwindow⟩

/-- What the budget of a company and action keeps to. -/
structure BudgetKept (key : Uuid × String) (limit : Nat) (windowSeconds : Int) (s : LimitState) : Prop where
  /-- At most `limit` grants in a window; windows start a width or more apart. -/
  perWindow : ∀ start, Counter.inWindow (s.grantsOf key) start ≤ limit
  windows : ∀ grant ∈ s.grantsOf key, ∀ other ∈ s.grantsOf key, grant.window = other.window ∨
    grant.window + windowWidth windowSeconds ≤ other.window ∨ other.window + windowWidth windowSeconds ≤ grant.window
  /-- At most twice as many in any half-open interval of one width, of the grants whose transaction did not start
  before the window they are counted in. -/
  interval : ∀ start,
    (s.grantsOf key).countP (Counter.inInterval (windowWidth windowSeconds) start) ≤ 2 * limit
  /-- These are all grants, if the upserts came in the order of the transactions. -/
  inOrder : ((s.grantsOf key).Pairwise fun earlier later => earlier.time ≤ later.time) → ∀ start,
    (s.grantsOf key).countP
      (fun grant => start ≤ grant.time ∧ grant.time < start + windowWidth windowSeconds) ≤ 2 * limit
  /-- A refused call leaves the table as it was. -/
  refused : ∀ now args retry rows', consumeIntegrationActionBudget now args s.rows = .ok (some retry, rows') →
    rows' = s.rows
  /-- A caller that is refused and alone in calling again after `retry` seconds or more is granted. -/
  retried : ∀ now args retry rows', args.addresses key →
    consumeIntegrationActionBudget now args s.rows = .ok (some retry, rows') →
    ∀ later, Reaches LimitState.step (Alone key) s later → ∀ now', now + retry * 1000000 ≤ now' →
      ∃ granted, consumeIntegrationActionBudget now' args later.rows = .ok (none, granted)

/-- **The integration budget**, in every state of every run whose calls about the key have one limit and window. -/
theorem integration_budget (key : Uuid × String) (limit : Nat) (windowSeconds clock : Int) {s : LimitState}
    (hrun : Reaches LimitState.step (fun _ => Budgeted key limit windowSeconds) (LimitState.initial clock) s) :
    BudgetKept key limit windowSeconds s := by
  have h : LimitInvariant key limit windowSeconds s :=
    hrun.invariant (limitInvariant_initial key limit windowSeconds clock)
      fun _ _ _ ih hbudgeted htaken => ih.step hbudgeted htaken
  constructor
  case perWindow => exact h.valid.bounded
  case windows => exact h.valid.separated
  case interval => exact h.valid.interval
  case inOrder =>
    intro hsorted start
    have hinterval := h.valid.interval start
    have hsame : (s.grantsOf key).countP
        (fun grant => start ≤ grant.time ∧ grant.time < start + windowWidth windowSeconds) =
        (s.grantsOf key).countP (Counter.inInterval (windowWidth windowSeconds) start) := by
      apply List.countP_congr
      intro grant hgrant
      have hearly : grant.window ≤ grant.time := h.valid.not_late hsorted grant hgrant
      simp [Counter.inInterval, hearly]
    rw [hsame]
    exact hinterval
  case refused =>
    intro now args retry rows' hconsume
    obtain ⟨company, -, -, -, hfacts⟩ := consume_counts h.keyed hconsume
    exact (hfacts.refused retry rfl).1
  case retried =>
    intro now args retry rows' haddresses hconsume later hlater now' hnow
    obtain ⟨hkeyed, hwindow⟩ := windowOf_alone h.keyed hlater
    exact granted_after_retry haddresses.1 haddresses.2 h.keyed hkeyed hconsume hwindow hnow

/-! ## The saves of one company -/

section Saves

/-- The company of the runs below and its saves. -/
def savingCompany : Uuid × String := (1, "threecx_save")

def save : BudgetArgs :=
  threecxBudget "00000000-0000-0000-0000-000000000001" "threecx_save"

/-- A call that finishes at once, at a time of the clock. -/
def saveAt (clock : Int) : List LimitAction :=
  [.tick clock, .start save, .finish 0]

/-- Two saves at the end of a window, three at the start of the next one.  Then two transactions start, a third
one that starts three microseconds later rolls the window over, and the two are counted in the new window. -/
def lateSaves : List LimitAction :=
  saveAt 0 ++ saveAt 899999998 ++ saveAt 899999999 ++ saveAt 900000000 ++ saveAt 900000000 ++ saveAt 900000000 ++
    [.tick 1799999997, .start save, .start save, .tick 1800000000, .start save, .finish 2, .finish 0, .finish 0]

theorem saves_budgeted {actions : List LimitAction}
    (h : (actions.all fun
      | .start args => args.limit = 3 && args.windowSeconds = 900
      | _ => true) = true) :
    ∀ action ∈ actions, ∀ _ : LimitState, Budgeted savingCompany 3 900 action := by
  intro action hmem _
  have haction := List.all_eq_true.mp h action hmem
  cases action with
  | start args =>
      intro _
      simpa using haction
  | tick clock => trivial
  | finish index => trivial
  | abort index => trivial

/-- A run of three saves. -/
theorem integration_budget_saves :
    ∃ s, execute LimitState.step (LimitState.initial 0) (saveAt 0 ++ saveAt 1 ++ saveAt 2) = some s ∧
      BudgetKept savingCompany 3 900 s := by
  refine ⟨final LimitState.step (LimitState.initial 0) (saveAt 0 ++ saveAt 1 ++ saveAt 2), ?_, ?_⟩
  · exact execute_final (by decide +kernel)
  · apply integration_budget savingCompany 3 900 0
    exact Reaches.of_execute_allowed (saves_budgeted (by decide +kernel)) (execute_final (by decide +kernel))

/-- **Seven grants in one interval, with a limit of three.**  `NOW()` is the start of the transaction, so a
transaction that waits while another one rolls the window over is counted in a window that starts after it. -/
theorem late_attempts_exceed_budget :
    ¬ ∀ s, Reaches LimitState.step (fun _ => Budgeted savingCompany 3 900) (LimitState.initial 0) s → ∀ start,
      (s.grantsOf savingCompany).countP
        (fun grant => start ≤ grant.time ∧ grant.time < start + windowWidth 900) ≤ 2 * 3 := by
  intro h
  have hexecute : execute LimitState.step (LimitState.initial 0) lateSaves =
      some (final LimitState.step (LimitState.initial 0) lateSaves) := execute_final (by decide +kernel)
  have hrun := Reaches.of_execute_allowed (saves_budgeted (by decide +kernel)) hexecute
  have hseven : ((final LimitState.step (LimitState.initial 0) lateSaves).grantsOf savingCompany).countP
      (fun grant => 899999998 ≤ grant.time ∧ grant.time < 899999998 + windowWidth 900) = 7 := by
    decide +kernel
  have hsix := h _ hrun 899999998
  rw [hseven] at hsix
  exact absurd hsix (by decide)

end Saves

end Db
end VoiceAssistants
