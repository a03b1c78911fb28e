import VoiceAssistants.Async.Permits

/-!
# The slots of the DNS probe (`app/services/threecx_probe.py`)

`_getaddrinfo_bounded` resolves a host in a thread and lets at most four such threads run.  A call takes a slot
of the semaphore, starts the lookup as a task of its own and waits for it under a timeout, shielded from its own
cancellation.  A call that gives up leaves its slot to the lookup, whose done callback releases it.

The thread, the completion of its task on the event loop and the done callback are separate steps: a thread
ends before the loop learns of it, and a callback runs in a later turn.  `asyncio.wait_for` may end with the
outcome of the lookup once its task is done, and with a timeout or a cancellation whenever the call waits,
also when the lookup is done already.  `acquire` under `wait_for` is atomic.  Nothing but the call has the
lookup task, so nobody cancels it.

* `Call.step` — one step of one call, with the slots it takes and releases.
* `abandoned_counted_after_thread` — counting only threads that still run misses a slot on its way back.
* `dns_slots_accounted` — every slot is free, with a waiting call, or with an abandoned lookup until its callback
  has run; it is released exactly once and only after the thread has ended.
-/

namespace VoiceAssistants
namespace Backend
namespace ThreeCxProbe

open Async

/-- `_DNS_RESOLUTION_CONCURRENCY`. -/
def dnsResolutionConcurrency : Nat := 4

/-- How `socket.getaddrinfo` fails.  A timeout of the resolver is the same class as `asyncio.TimeoutError`. -/
inductive LookupError
  | timeoutError
  | other (message : String)
  deriving DecidableEq, Repr

/-- What a call raises. -/
inductive ProbeError
  | timeoutError
  | cancelledError
  | httpException (statusCode : Nat) (detail : String)
  | other (message : String)
  deriving DecidableEq, Repr

/-- The 503 of a call that gets no slot in time. -/
def capacityUnavailable : ProbeError :=
  .httpException 503 "PBX DNS resolution capacity is temporarily unavailable"

/-- The exception of a lookup, as the waiting call sees it. -/
def LookupError.raised : LookupError → ProbeError
  | timeoutError => .timeoutError
  | other message => .other message

/-- What `getaddrinfo` returns or raises. -/
inductive LookupResult
  | resolved (addresses : List String)
  | failed (error : LookupError)
  deriving DecidableEq, Repr

/-- What a call returns or raises. -/
inductive Outcome
  | returned (addresses : List String)
  | raised (error : ProbeError)
  deriving DecidableEq, Repr

/-- The outcome of a lookup, as the waiting call sees it. -/
def LookupResult.outcome : LookupResult → Outcome
  | resolved addresses => .returned addresses
  | failed error => .raised error.raised

/-- The lookup of a call: its thread runs (or waits for a worker), has ended, or the task is done. -/
inductive Lookup
  | running
  | threadEnded (result : LookupResult)
  | done (result : LookupResult)
  deriving DecidableEq, Repr

/-- The thread has ended. -/
def Lookup.Ended : Lookup → Prop
  | running => False
  | threadEnded _ | done _ => True

/-- The done callback that releases the slot of an abandoned lookup. -/
inductive ReleaseCallback
  | absent
  | registered
  | scheduled
  | ran
  deriving DecidableEq, Repr

/-- Where a call is suspended, or how it ended. -/
inductive Phase
  | acquiring
  | waiting
  | ended (outcome : Outcome)
  deriving DecidableEq

/-- A call of `_getaddrinfo_bounded`; `lookup` is there once the call has its slot. -/
structure Call where
  phase : Phase
  lookup : Option Lookup
  callback : ReleaseCallback
  deriving DecidableEq

/-- A call that has just been made. -/
def Call.fresh : Call :=
  ⟨.acquiring, none, .absent⟩

/-- What can happen to a call. -/
inductive CallAction
  | acquire
  | queueTimeout
  | cancelQueued
  | threadEnds (result : LookupResult)
  | taskCompletes
  | resume
  | timeout
  | cancel
  | runCallback
  deriving DecidableEq

/-- `lookup.add_done_callback`: the callback of a task that is done already is scheduled at once. -/
def Call.addDoneCallback (call : Call) : Call :=
  match call.lookup with
  | some (.done _) => { call with callback := .scheduled }
  | _ => { call with callback := .registered }

/-- The two handlers that set `slot_transferred_to_lookup`. -/
def slotTransferredToLookup (outcome : Outcome) : Bool :=
  outcome = .raised .timeoutError || outcome = .raised .cancelledError

/-- The handlers and the `finally` block around the second await: a timeout and a cancellation transfer the slot
to the lookup, everything else releases it. -/
def Call.leave (call : Call) (outcome : Outcome) : Effect Call :=
  if slotTransferredToLookup outcome then ⟨{ call.addDoneCallback with phase := .ended outcome }, 0, 0⟩
  else ⟨{ call with phase := .ended outcome }, 0, 1⟩

/-- One step of one call. -/
def Call.step (call : Call) : CallAction → Option (Effect Call)
  | .acquire =>
      if call.phase = .acquiring then some ⟨{ call with phase := .waiting, lookup := some .running }, 1, 0⟩
      else none
  | .queueTimeout =>
      if call.phase = .acquiring then
        some ⟨{ call with phase := .ended (.raised capacityUnavailable) }, 0, 0⟩
      else none
  | .cancelQueued =>
      if call.phase = .acquiring then some ⟨{ call with phase := .ended (.raised .cancelledError) }, 0, 0⟩
      else none
  | .threadEnds result =>
      match call.lookup with
      | some .running => some ⟨{ call with lookup := some (.threadEnded result) }, 0, 0⟩
      | _ => none
  | .taskCompletes =>
      match call.lookup with
      | some (.threadEnded result) =>
          let callback := if call.callback = .registered then .scheduled else call.callback
          some ⟨{ call with lookup := some (.done result), callback := callback }, 0, 0⟩
      | _ => none
  | .resume =>
      match call.phase, call.lookup with
      | .waiting, some (.done result) => some (call.leave result.outcome)
      | _, _ => none
  | .timeout =>
      if call.phase = .waiting then some (call.leave (.raised .timeoutError)) else none
  | .cancel =>
      if call.phase = .waiting then some (call.leave (.raised .cancelledError)) else none
  | .runCallback =>
      if call.callback = .scheduled then some ⟨{ call with callback := .ran }, 0, 1⟩ else none

/-- Any number of calls that share the semaphore. -/
abbrev probeStep : Pool Call → PoolAction CallAction → Option (Pool Call) :=
  Pool.step Call.fresh Call.step

/-- The semaphore before the first call. -/
abbrev idle : Pool Call :=
  Pool.initial dnsResolutionConcurrency

/-! ## One call -/

/-- The call waits for its lookup. -/
def Call.Waiting (call : Call) : Prop :=
  call.phase = .waiting

/-- The call has left its slot to the lookup, whose callback has not run yet. -/
def Call.Abandoned (call : Call) : Prop :=
  call.callback = .registered ∨ call.callback = .scheduled

/-- The thread of the call's lookup still runs. -/
def Call.ThreadRunning (call : Call) : Prop :=
  call.lookup = some .running

instance (call : Call) : Decidable call.Waiting :=
  inferInstanceAs (Decidable (_ = _))

instance (call : Call) : Decidable call.Abandoned :=
  inferInstanceAs (Decidable (_ ∨ _))

instance (call : Call) : Decidable call.ThreadRunning :=
  inferInstanceAs (Decidable (_ = _))

/-- The slots a call holds. -/
def Call.holds (call : Call) : Nat :=
  (if call.Waiting then 1 else 0) + (if call.Abandoned then 1 else 0)

/-- The calls there are: `answered` is one whose `finally` block released the slot. -/
inductive CallShape : Call → Prop
  | queued : CallShape ⟨.acquiring, none, .absent⟩
  | refused (outcome : Outcome) : CallShape ⟨.ended outcome, none, .absent⟩
  | waiting (lookup : Lookup) : CallShape ⟨.waiting, some lookup, .absent⟩
  | answered (outcome : Outcome) (result : LookupResult) :
      CallShape ⟨.ended outcome, some (.done result), .absent⟩
  | running (outcome : Outcome) : CallShape ⟨.ended outcome, some .running, .registered⟩
  | threadEnded (outcome : Outcome) (result : LookupResult) :
      CallShape ⟨.ended outcome, some (.threadEnded result), .registered⟩
  | scheduled (outcome : Outcome) (result : LookupResult) :
      CallShape ⟨.ended outcome, some (.done result), .scheduled⟩
  | ran (outcome : Outcome) (result : LookupResult) : CallShape ⟨.ended outcome, some (.done result), .ran⟩

/-- The lookup's thread has ended. -/
def Call.ThreadEnded (call : Call) : Prop :=
  ∃ lookup, call.lookup = some lookup ∧ lookup.Ended

/-- The slots a call has taken: one, with the start of its lookup. -/
def Call.took (call : Call) : Nat :=
  if call.lookup = none then 0 else 1

/-- What a step of a call does to its books. -/
structure StepFacts (call : Call) (effect : Effect Call) : Prop where
  shape : CallShape effect.member
  balance : effect.member.holds + effect.released = call.holds + effect.taken
  taken : effect.member.took = call.took + effect.taken
  /-- A thread that has ended stays so. -/
  ended : call.ThreadEnded → effect.member.ThreadEnded
  /-- A slot is released only after the thread has ended. -/
  released : effect.released ≠ 0 → effect.member.ThreadEnded

/-- Leaving a waiting call by a timeout or a cancellation, with its lookup in any state. -/
theorem stepFacts_leave_transferred {lookup : Lookup} {outcome : Outcome}
    (h : slotTransferredToLookup outcome = true) :
    StepFacts ⟨.waiting, some lookup, .absent⟩ (Call.leave ⟨.waiting, some lookup, .absent⟩ outcome) := by
  unfold Call.leave
  rw [if_pos h]
  cases lookup with
  | running => exact ⟨.running _, rfl, rfl, fun hended => hended, fun hreleased => absurd rfl hreleased⟩
  | threadEnded found =>
      exact ⟨.threadEnded _ _, rfl, rfl, fun hended => hended, fun hreleased => absurd rfl hreleased⟩
  | done found => exact ⟨.scheduled _ _, rfl, rfl, fun hended => hended, fun hreleased => absurd rfl hreleased⟩

/-- Leaving a waiting call with the outcome of its lookup. -/
theorem stepFacts_leave_done (result : LookupResult) (outcome : Outcome) :
    StepFacts ⟨.waiting, some (.done result), .absent⟩
      (Call.leave ⟨.waiting, some (.done result), .absent⟩ outcome) := by
  by_cases h : slotTransferredToLookup outcome = true
  · -- The resolver itself timed out, which the handler cannot tell from a timeout of the wait.
    exact stepFacts_leave_transferred h
  · unfold Call.leave
    rw [if_neg h]
    exact ⟨.answered _ _, rfl, rfl, fun hended => hended, fun _ => ⟨_, rfl, trivial⟩⟩

/-- A step that takes and releases nothing. -/
theorem stepFacts_idle {call call' : Call} (hshape : CallShape call') (hholds : call'.holds = call.holds)
    (htook : call'.took = call.took) (hended : call.ThreadEnded → call'.ThreadEnded) :
    StepFacts call ⟨call', 0, 0⟩ :=
  ⟨hshape, hholds, htook, hended, fun hreleased => absurd rfl hreleased⟩

theorem not_threadEnded_none {phase : Phase} {callback : ReleaseCallback} :
    ¬ Call.ThreadEnded ⟨phase, none, callback⟩ := by
  rintro ⟨lookup, hlookup, -⟩
  cases hlookup

theorem not_threadEnded_running {phase : Phase} {callback : ReleaseCallback} :
    ¬ Call.ThreadEnded ⟨phase, some .running, callback⟩ := by
  rintro ⟨lookup, hlookup, hended⟩
  obtain rfl := Option.some.inj hlookup
  exact hended

/-- One step of a call, by the shape of the call and what happens to it. -/
theorem stepFacts {call : Call} (hshape : CallShape call) {action : CallAction} {effect : Effect Call}
    (heffect : call.step action = some effect) : StepFacts call effect := by
  cases hshape with
  | queued =>
      cases action <;> simp only [Call.step, reduceCtorEq, if_true, if_false] at heffect
      case acquire =>
        cases heffect
        exact ⟨.waiting _, rfl, rfl, fun hended => absurd hended not_threadEnded_none,
          fun hreleased => absurd rfl hreleased⟩
      case queueTimeout =>
        cases heffect
        exact stepFacts_idle (.refused _) rfl rfl fun hended => absurd hended not_threadEnded_none
      case cancelQueued =>
        cases heffect
        exact stepFacts_idle (.refused _) rfl rfl fun hended => absurd hended not_threadEnded_none
  | refused outcome =>
      cases action <;> simp only [Call.step, reduceCtorEq, if_false] at heffect
  | waiting lookup =>
      cases action
      case threadEnds result =>
        cases lookup <;> simp only [Call.step, reduceCtorEq] at heffect
        cases heffect
        exact stepFacts_idle (.waiting _) rfl rfl fun hended => absurd hended not_threadEnded_running
      case taskCompletes =>
        cases lookup <;> simp only [Call.step, reduceCtorEq] at heffect
        cases heffect
        exact stepFacts_idle (.waiting _) rfl rfl fun _ => ⟨_, rfl, trivial⟩
      case resume =>
        cases lookup <;> simp only [Call.step, reduceCtorEq] at heffect
        cases heffect
        exact stepFacts_leave_done _ _
      case timeout =>
        simp only [Call.step, if_true] at heffect
        cases heffect
        exact stepFacts_leave_transferred rfl
      case cancel =>
        simp only [Call.step, if_true] at heffect
        cases heffect
        exact stepFacts_leave_transferred rfl
      all_goals
        simp only [Call.step, reduceCtorEq, if_false] at heffect
  | answered outcome result =>
      cases action <;> simp only [Call.step, reduceCtorEq, if_false] at heffect
  | running outcome =>
      cases action <;> simp only [Call.step, reduceCtorEq, if_false] at heffect
      case threadEnds result =>
        cases heffect
        exact stepFacts_idle (.threadEnded _ _) rfl rfl fun hended => absurd hended not_threadEnded_running
  | threadEnded outcome result =>
      cases action <;> simp only [Call.step, reduceCtorEq, if_true, if_false] at heffect
      case taskCompletes =>
        cases heffect
        exact stepFacts_idle (.scheduled _ _) rfl rfl fun _ => ⟨_, rfl, trivial⟩
  | scheduled outcome result =>
      cases action <;> simp only [Call.step, reduceCtorEq, if_true, if_false] at heffect
      case runCallback =>
        cases heffect
        exact ⟨.ran _ _, rfl, rfl, fun hended => hended, fun _ => ⟨_, rfl, trivial⟩⟩
  | ran outcome result =>
      cases action <;> simp only [Call.step, reduceCtorEq, if_false] at heffect

/-- A call that has given its slot up and that nothing can happen to any more has released it. -/
theorem holds_of_idle {call : Call} (hshape : CallShape call) (hended : call.ThreadEnded)
    (hcompletes : call.step .taskCompletes = none) (hresume : call.step .resume = none)
    (hcallback : call.step .runCallback = none) : call.holds = 0 := by
  cases hshape with
  | queued => rfl
  | refused outcome => rfl
  | waiting lookup =>
      cases lookup with
      | running => exact absurd hended not_threadEnded_running
      | threadEnded result => cases hcompletes
      | done result => cases hresume
  | answered outcome result => rfl
  | running outcome => exact absurd hended not_threadEnded_running
  | threadEnded outcome result => cases hcompletes
  | scheduled outcome result => cases hcallback
  | ran outcome result => rfl

/-! ## Any number of calls -/

theorem balanced : Pool.Balanced Call.fresh Call.step CallShape Call.holds where
  valid_fresh := .queued
  holds_fresh := rfl
  valid_step _ _ _ hshape heffect := (stepFacts hshape heffect).shape
  holds_step _ _ _ hshape heffect := (stepFacts hshape heffect).balance

/-- The calls that wait for their lookup. -/
def waitingCalls (pool : Pool Call) : Nat :=
  pool.accounts.countP fun account => account.member.Waiting

/-- The abandoned lookups whose callback has not run. -/
def abandonedLookups (pool : Pool Call) : Nat :=
  pool.accounts.countP fun account => account.member.Abandoned

/-- The abandoned lookups whose thread still runs. -/
def abandonedThreads (pool : Pool Call) : Nat :=
  pool.accounts.countP fun account => account.member.Abandoned ∧ account.member.ThreadRunning

theorem held_eq (pool : Pool Call) : pool.held Call.holds = waitingCalls pool + abandonedLookups pool := by
  obtain ⟨free, accounts⟩ := pool
  induction accounts with
  | nil => rfl
  | cons account rest ih =>
      simp only [Pool.held, waitingCalls, abandonedLookups, List.map_cons, List.sum_cons, List.countP_cons,
        decide_eq_true_eq] at ih ⊢
      have hfirst : account.member.holds = (if account.member.Waiting then 1 else 0) +
        (if account.member.Abandoned then 1 else 0) := rfl
      omega

/-- The books of the semaphore. -/
structure SlotsAccounted (pool : Pool Call) : Prop where
  total : pool.free + waitingCalls pool + abandonedLookups pool = dnsResolutionConcurrency
  /-- With the threads that still run alone there may be one missing, but never one too many. -/
  threads : pool.free + waitingCalls pool + abandonedThreads pool ≤ dnsResolutionConcurrency
  /-- There is none missing while no abandoned thread has ended without its callback having run. -/
  settled : (∀ account ∈ pool.accounts, account.member.Abandoned → account.member.ThreadRunning) →
    pool.free + waitingCalls pool + abandonedThreads pool = dnsResolutionConcurrency
  /-- A call takes one slot, with the start of its lookup. -/
  taken : ∀ account ∈ pool.accounts, account.taken = account.member.took
  /-- While a call waits or its lookup is abandoned, the slot has not been released. -/
  kept : ∀ account ∈ pool.accounts, account.member.Waiting ∨ account.member.Abandoned → account.released = 0
  /-- Otherwise it has been, once. -/
  once : ∀ account ∈ pool.accounts, ¬ account.member.Waiting → ¬ account.member.Abandoned →
    account.released = account.taken
  /-- Not before the thread has ended. -/
  afterThread : ∀ account ∈ pool.accounts, account.released ≠ 0 → account.member.ThreadEnded
  /-- When the thread has ended and nothing is left to run for the call, the slot has been released. -/
  delivered : ∀ account ∈ pool.accounts, account.member.ThreadEnded →
    account.member.step .taskCompletes = none → account.member.step .resume = none →
    account.member.step .runCallback = none → account.released = 1

theorem took_le_one (call : Call) : call.took ≤ 1 := by
  unfold Call.took
  split <;> omega

/-- What the books say about one call of a run. -/
structure AccountFacts (account : Account Call) : Prop where
  shape : CallShape account.member
  taken : account.taken = account.member.took
  afterThread : account.released ≠ 0 → account.member.ThreadEnded

theorem accountFacts {pool : Pool Call} (hrun : Reaches probeStep Always idle pool) :
    ∀ account ∈ pool.accounts, AccountFacts account := by
  refine Pool.forall_account (P := AccountFacts) ⟨.queued, rfl, fun h => absurd rfl h⟩ ?_ hrun
  intro account action effect hfacts heffect
  have hstep := stepFacts hfacts.shape heffect
  constructor
  case shape => exact hstep.shape
  case taken =>
    show account.taken + effect.taken = effect.member.took
    rw [hfacts.taken]
    exact hstep.taken.symm
  case afterThread =>
    intro hreleased
    have hsum : account.released + effect.released ≠ 0 := hreleased
    by_cases hnow : effect.released = 0
    · apply hstep.ended
      apply hfacts.afterThread
      omega
    · exact hstep.released hnow

/-- The abandoned threads that still run are some of the abandoned lookups. -/
theorem abandonedThreads_le (pool : Pool Call) : abandonedThreads pool ≤ abandonedLookups pool := by
  apply List.countP_mono_left
  intro account _ h
  have hboth : account.member.Abandoned ∧ account.member.ThreadRunning := by simpa using h
  simpa using hboth.1

/-- **The slots are accounted for in every run.** -/
theorem dns_slots_accounted {pool : Pool Call} (hrun : Reaches probeStep Always idle pool) :
    SlotsAccounted pool := by
  obtain ⟨htotal, hbooks⟩ := balanced.run hrun
  rw [held_eq] at htotal
  have hfacts := accountFacts hrun
  constructor
  case total => omega
  case threads =>
    have hle := abandonedThreads_le pool
    omega
  case settled =>
    intro hrunning
    have hsame : abandonedThreads pool = abandonedLookups pool := by
      apply List.countP_congr
      intro account haccount
      simp only [decide_eq_true_eq]
      constructor
      · exact fun h => h.1
      · exact fun h => ⟨h, hrunning account haccount h⟩
    omega
  case taken => exact fun account haccount => (hfacts account haccount).taken
  case kept =>
    intro account haccount hholding
    have hholds : 1 ≤ account.member.holds := by
      unfold Call.holds
      rcases hholding with h | h
      · rw [if_pos h]
        omega
      · rw [if_pos h]
        omega
    have hbook := hbooks account haccount
    have htaken := (hfacts account haccount).taken
    have hone := took_le_one account.member
    omega
  case once =>
    intro account haccount hwaiting habandoned
    have hholds : account.member.holds = 0 := by
      unfold Call.holds
      rw [if_neg hwaiting, if_neg habandoned]
    have hbook := hbooks account haccount
    omega
  case afterThread => exact fun account haccount => (hfacts account haccount).afterThread
  case delivered =>
    intro account haccount hended hcompletes hresume hcallback
    have hholds := holds_of_idle (hfacts account haccount).shape hended hcompletes hresume hcallback
    have hbook := hbooks account haccount
    have htaken := (hfacts account haccount).taken
    have htook : account.member.took = 1 := by
      obtain ⟨lookup, hlookup, -⟩ := hended
      unfold Call.took
      rw [hlookup, if_neg (by simp)]
    omega

/-- A call that is cancelled while its lookup runs: the slot comes back after the thread, its task and the
callback. -/
theorem dns_slots_accounted_cancelled :
    let pool : Pool Call :=
      ⟨4, [⟨⟨.ended (.raised .cancelledError), some (.done (.resolved ["203.0.113.7"])), .ran⟩, 1, 1⟩]⟩
    execute probeStep idle
        [.start, .act 0 .acquire, .act 0 .cancel, .act 0 (.threadEnds (.resolved ["203.0.113.7"])),
          .act 0 .taskCompletes, .act 0 .runCallback] = some pool ∧
      SlotsAccounted pool := by
  intro pool
  have hrun : execute probeStep idle
      [.start, .act 0 .acquire, .act 0 .cancel, .act 0 (.threadEnds (.resolved ["203.0.113.7"])),
        .act 0 .taskCompletes, .act 0 .runCallback] = some pool := by
    decide +kernel
  constructor
  · exact hrun
  · exact dns_slots_accounted (Reaches.of_execute hrun)

/-- **Counting only the threads that still run.**  The thread of an abandoned lookup has ended and the event loop
has not heard of it yet: three slots are free, and nothing that the sum counts has the fourth. -/
theorem abandoned_counted_after_thread :
    ¬ ∀ pool, Reaches probeStep Always idle pool →
      pool.free + waitingCalls pool + abandonedThreads pool = dnsResolutionConcurrency := by
  intro h
  let pool : Pool Call :=
    ⟨3, [⟨⟨.ended (.raised .cancelledError), some (.threadEnded (.resolved ["203.0.113.7"])), .registered⟩, 1, 0⟩]⟩
  have hrun : execute probeStep idle
      [.start, .act 0 .acquire, .act 0 .cancel, .act 0 (.threadEnds (.resolved ["203.0.113.7"]))] = some pool := by
    decide +kernel
  have hfour := h pool (Reaches.of_execute hrun)
  exact absurd hfour (by decide +kernel)

end ThreeCxProbe
end Backend
end VoiceAssistants
