import Mathlib.Algebra.GroupWithZero.Nat
import VoiceAssistants.Async.Run

/-!
# Tasks that share a pool of permits

Any number of tasks take permits from one pool and give them back.  A task is a transition system whose steps
say how many permits they take and release; a step that takes more than there are is not enabled.  The pool
keeps, for every task, how many permits it has taken and released so far.

`Pool.Balanced` is what a task type has to show: with every step of a valid task, what it holds changes by what
the step takes and releases.  The run lemma `Pool.Balanced.run` then says that permits are neither lost nor made
up.
-/

namespace VoiceAssistants
namespace Async

/-- What a step of a task does: its next state, and the permits it takes and releases. -/
structure Effect (M : Type) where
  member : M
  taken : Nat
  released : Nat

/-- A task with the permits it has taken and released so far. -/
structure Account (M : Type) where
  member : M
  taken : Nat
  released : Nat
  deriving DecidableEq

/-- The free permits and the tasks, in the order of their start. -/
structure Pool (M : Type) where
  free : Nat
  accounts : List (Account M)
  deriving DecidableEq

/-- A task starts, or the task `index` takes a step. -/
inductive PoolAction (A : Type)
  | start
  | act (index : Nat) (action : A)

variable {M A : Type}

/-- The account after a step of its task. -/
def Account.record (account : Account M) (effect : Effect M) : Account M :=
  ⟨effect.member, account.taken + effect.taken, account.released + effect.released⟩

namespace Pool

/-- The pool before the first task. -/
def initial (capacity : Nat) : Pool M :=
  ⟨capacity, []⟩

/-- One step of the pool. -/
def step (fresh : M) (taskStep : M → A → Option (Effect M)) (pool : Pool M) : PoolAction A → Option (Pool M)
  | .start => some { pool with accounts := pool.accounts ++ [⟨fresh, 0, 0⟩] }
  | .act index action => do
      let account ← pool.accounts[index]?
      let effect ← taskStep account.member action
      if effect.taken ≤ pool.free then
        some ⟨pool.free - effect.taken + effect.released, pool.accounts.set index (account.record effect)⟩
      else none

/-- The permits that all tasks hold. -/
def held (holds : M → Nat) (pool : Pool M) : Nat :=
  (pool.accounts.map fun account => holds account.member).sum

variable {fresh : M} {taskStep : M → A → Option (Effect M)}

/-- All that a step can do. -/
theorem step_cases {pool pool' : Pool M} {action : PoolAction A}
    (h : step fresh taskStep pool action = some pool') :
    (action = .start ∧ pool' = { pool with accounts := pool.accounts ++ [⟨fresh, 0, 0⟩] }) ∨
    (∃ index taskAction account effect, action = .act index taskAction ∧
      pool.accounts[index]? = some account ∧ taskStep account.member taskAction = some effect ∧
      effect.taken ≤ pool.free ∧
      pool' = ⟨pool.free - effect.taken + effect.released, pool.accounts.set index (account.record effect)⟩) := by
  cases action with
  | start =>
      left
      constructor
      · rfl
      · exact (Option.some.inj h).symm
  | act index taskAction =>
      right
      simp only [step, Option.bind_eq_bind, Option.bind_eq_some_iff] at h
      obtain ⟨account, haccount, effect, heffect, h⟩ := h
      split at h
      · rename_i hfree
        exact ⟨index, taskAction, account, effect, rfl, haccount, heffect, hfree, (Option.some.inj h).symm⟩
      · cases h

/-- What holds of every new account, and of an account after a step if it held before, holds of all accounts
of a run. -/
theorem forall_account {P : Account M → Prop} (hfresh : P ⟨fresh, 0, 0⟩)
    (hstep : ∀ account action effect, P account → taskStep account.member action = some effect →
      P (account.record effect))
    {capacity : Nat} {pool : Pool M} (hrun : Reaches (step fresh taskStep) Always (initial capacity) pool) :
    ∀ account ∈ pool.accounts, P account := by
  refine hrun.invariant (I := fun pool => ∀ account ∈ pool.accounts, P account) ?_ ?_
  · intro account haccount
    cases haccount
  · intro pool action pool' ih _ htaken account haccount
    rcases step_cases htaken with ⟨-, rfl⟩ | ⟨index, taskAction, old, effect, -, hold, heffect, -, rfl⟩
    · rcases List.mem_append.mp haccount with hmem | hmem
      · exact ih account hmem
      · rw [List.mem_singleton.mp hmem]
        exact hfresh
    · rcases List.mem_or_eq_of_mem_set haccount with hmem | rfl
      · exact ih account hmem
      · exact hstep old taskAction effect (ih old (List.mem_of_getElem? hold)) heffect

/-- Every step of a valid task leaves it valid, and changes what it holds by what the step takes and releases. -/
structure Balanced (fresh : M) (taskStep : M → A → Option (Effect M)) (valid : M → Prop) (holds : M → Nat) :
    Prop where
  valid_fresh : valid fresh
  holds_fresh : holds fresh = 0
  valid_step : ∀ member action effect, valid member → taskStep member action = some effect → valid effect.member
  holds_step : ∀ member action effect, valid member → taskStep member action = some effect →
    holds effect.member + effect.released = holds member + effect.taken

/-- A sum over a list after one item has been replaced. -/
theorem sum_map_set {α : Type} (f : α → Nat) {items : List α} {index : Nat} {old : α} (new : α)
    (hold : items[index]? = some old) :
    ((items.set index new).map f).sum + f old = (items.map f).sum + f new := by
  induction items generalizing index with
  | nil => cases hold
  | cons first rest ih =>
      cases index with
      | zero =>
          obtain rfl : first = old := Option.some.inj hold
          simp only [List.set_cons_zero, List.map_cons, List.sum_cons]
          omega
      | succ index =>
          have hrest : ((rest.set index new).map f).sum + f old = (rest.map f).sum + f new := ih hold
          simp only [List.set_cons_succ, List.map_cons, List.sum_cons]
          omega

variable {valid : M → Prop} {holds : M → Nat}

/-- All tasks of a run are valid. -/
theorem Balanced.valid_account (h : Balanced fresh taskStep valid holds) {capacity : Nat} {pool : Pool M}
    (hrun : Reaches (Pool.step fresh taskStep) Always (initial capacity) pool) :
    ∀ account ∈ pool.accounts, valid account.member := by
  refine forall_account (P := fun account => valid account.member) h.valid_fresh ?_ hrun
  intro account action effect hvalid heffect
  exact h.valid_step _ _ _ hvalid heffect

/-- A step keeps the number of permits. -/
theorem Balanced.total_step (h : Balanced fresh taskStep valid holds) {pool pool' : Pool M} {action : PoolAction A}
    (hvalid : ∀ account ∈ pool.accounts, valid account.member)
    (htaken : Pool.step fresh taskStep pool action = some pool') :
    pool'.free + pool'.held holds = pool.free + pool.held holds := by
  rcases step_cases htaken with ⟨-, rfl⟩ | ⟨index, taskAction, account, effect, -, haccount, heffect, hfree, rfl⟩
  · simp [held, h.holds_fresh]
  · have hmember := hvalid account (List.mem_of_getElem? haccount)
    have hbalance := h.holds_step _ _ _ hmember heffect
    have hsum := sum_map_set (fun account => holds account.member) (account.record effect) haccount
    have hrecord : (account.record effect).member = effect.member := rfl
    simp only [hrecord] at hsum
    show pool.free - effect.taken + effect.released +
      ((pool.accounts.set index (account.record effect)).map fun account => holds account.member).sum =
        pool.free + (pool.accounts.map fun account => holds account.member).sum
    omega

/-- **The balance of a run.**  Free and held permits are the capacity, and every task has released what it took
and no longer holds. -/
theorem Balanced.run (h : Balanced fresh taskStep valid holds) {capacity : Nat} {pool : Pool M}
    (hrun : Reaches (Pool.step fresh taskStep) Always (initial capacity) pool) :
    pool.free + pool.held holds = capacity ∧
      ∀ account ∈ pool.accounts, account.taken = account.released + holds account.member := by
  constructor
  · refine hrun.invariant_reached (I := fun pool => pool.free + pool.held holds = capacity) ?_ ?_
    · simp [initial, held]
    · intro pool action pool' hreached ih _ htaken
      exact (h.total_step (h.valid_account hreached) htaken).trans ih
  · have haccounts : ∀ account ∈ pool.accounts,
        valid account.member ∧ account.taken = account.released + holds account.member :=
      forall_account ⟨h.valid_fresh, by simp [h.holds_fresh]⟩ ?_ hrun
    · intro account haccount
      exact (haccounts account haccount).2
    · intro account action effect ⟨hvalid, ih⟩ heffect
      have hbalance := h.holds_step _ _ _ hvalid heffect
      constructor
      · exact h.valid_step _ _ _ hvalid heffect
      · show account.taken + effect.taken = account.released + effect.released + holds effect.member
        omega

end Pool

end Async
end VoiceAssistants
