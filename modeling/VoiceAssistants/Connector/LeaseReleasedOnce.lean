import VoiceAssistants.Collections.Slots
import VoiceAssistants.Connector.BrokerBoundRuntime

/-!
# A tenant lease is released once

`releaseOnce()` shares the promise of a release until the `finally` of that promise has run, and calls
`releaseTenantLease` only while there is a lease; but the `finally` that clears `releasePromise` and the
continuation that clears `lease` are different turns.  Between the two of a successful release the lease is
`Unnoticed`, and a turn that gets to `releaseOnce()` then releases it again (`lease_released_twice`).

In the runs without such turns a lease is released successfully at most once, and not again after that, there is
at most one release under way, and a lease whose release failed is kept for the next `shutdown()`
(`released_once_unless_unnoticed`).  Nothing is assumed of the order of the other turns.
-/

namespace VoiceAssistants
namespace Connector

open Async
open Collections (getElem?_concat_cases)

/-- The promise of `releaseTenantLease` and its `finally` are not both through. -/
def ReleasePhase.Open : ReleasePhase → Prop
  | .finalized _ => False
  | _ => True

/-- `releaseTenantLease` has resolved. -/
def ReleasePhase.Succeeded (phase : ReleasePhase) : Prop :=
  phase = .settled true ∨ phase = .finalized true

/-- What is shared between the callers of `releaseOnce()`: the calls of `releaseTenantLease`, with the promise of the
open one, and the lease. -/
structure ReleaseLedger (lease : Bool) (releasePromise : Option Nat) (releases : List Release) : Prop where
  shared : ∀ release entry, releases[release]? = some entry → entry.phase.Open → releasePromise = some release
  opened : ∀ release, releasePromise = some release → ∃ entry, releases[release]? = some entry ∧ entry.phase.Open
  last : ∀ release entry, releases[release]? = some entry → entry.phase ≠ .finalized false →
    release + 1 = releases.length
  kept : releases ≠ [] → (∀ entry ∈ releases, ¬ entry.phase.Succeeded) → lease = true

namespace ReleaseLedger

variable {lease : Bool} {releasePromise : Option Nat} {releases : List Release} {release : Nat} {entry : Release}

theorem nil (releasePromise : Option Nat) (h : releasePromise = none) : ReleaseLedger lease releasePromise [] := by
  subst h
  constructor
  · intro release entry hentry
    simp at hentry
  · intro release hpromise
    cases hpromise
  · intro release entry hentry
    simp at hentry
  · exact fun hne => absurd rfl hne

/-- The lease is gone once it has been released, or has never been. -/
theorem forget (h : ReleaseLedger lease releasePromise releases)
    (hsucceeded : lease = false ∨ ∃ entry ∈ releases, entry.phase.Succeeded) :
    ReleaseLedger false releasePromise releases := by
  constructor
  · exact h.shared
  · exact h.opened
  · exact h.last
  · intro hne hnone
    rcases hsucceeded with hlease | ⟨entry, hmem, hentry⟩
    · rw [← hlease]
      exact h.kept hne hnone
    · exact absurd hentry (hnone entry hmem)

/-- While no release is open and none has succeeded, every one of them has failed. -/
theorem failed_of_idle (h : ReleaseLedger lease none releases)
    (hnone : ∀ entry ∈ releases, entry.phase ≠ .finalized true) :
    ∀ entry ∈ releases, entry.phase = .finalized false := by
  intro entry hmem
  obtain ⟨release, hentry⟩ := List.getElem?_of_mem hmem
  cases hphase : entry.phase with
  | pending =>
      have hshared := h.shared release entry hentry (by rw [hphase]; trivial)
      cases hshared
  | settled resolved =>
      have hshared := h.shared release entry hentry (by rw [hphase]; trivial)
      cases hshared
  | finalized resolved =>
      cases resolved with
      | true => exact absurd hphase (hnone entry hmem)
      | false => rfl

/-- A further call of `releaseTenantLease`, after calls that have all failed. -/
theorem add (hfailed : ∀ entry ∈ releases, entry.phase = .finalized false) (entry : Release)
    (hphase : entry.phase = .pending ∧ releasePromise = some releases.length ∨
      entry.phase = .finalized false ∧ releasePromise = none) :
    ReleaseLedger true releasePromise (releases ++ [entry]) := by
  -- an entry that has not failed is the new one
  have hnew {release : Nat} {other : Release} (hother : (releases ++ [entry])[release]? = some other)
      (hopen : other.phase ≠ .finalized false) : release = releases.length ∧ other = entry := by
    rcases getElem?_concat_cases hother with hold | hnew
    · exact absurd (hfailed other (List.mem_of_getElem? hold)) hopen
    · exact hnew
  constructor
  · intro release other hother hopen
    obtain ⟨rfl, rfl⟩ := hnew hother (by intro heq; rw [heq] at hopen; exact hopen)
    rcases hphase with ⟨-, hpromise⟩ | ⟨hclosed, -⟩
    · exact hpromise
    · rw [hclosed] at hopen
      exact hopen.elim
  · intro release hpromise
    rcases hphase with ⟨hpending, hsome⟩ | ⟨-, hnone⟩
    · rw [hsome] at hpromise
      obtain rfl := Option.some.inj hpromise
      refine ⟨entry, by simp, ?_⟩
      rw [hpending]
      trivial
    · rw [hnone] at hpromise
      cases hpromise
  · intro release other hother hopen
    obtain ⟨rfl, -⟩ := hnew hother hopen
    simp
  · exact fun _ _ => rfl

/-- A call of `releaseTenantLease` moves on: it is the last one as long as it has not failed. -/
theorem set_last (h : ReleaseLedger lease releasePromise releases) (hentry : releases[release]? = some entry)
    (hopen : entry.phase.Open) (phase : ReleasePhase) {other : Nat} {next : Release}
    (hnext : (releases.set release { entry with phase := phase })[other]? = some next)
    (hphase : next.phase ≠ .finalized false) :
    other + 1 = (releases.set release { entry with phase := phase }).length := by
  rw [List.length_set]
  by_cases heq : release = other
  · subst heq
    apply h.last _ entry hentry
    intro hfailed
    rw [hfailed] at hopen
    exact hopen
  · rw [List.getElem?_set_ne heq] at hnext
    exact h.last other next hnext hphase

/-- A call of `releaseTenantLease` moves on, and a success is not undone. -/
theorem set_kept (h : ReleaseLedger lease releasePromise releases) (hentry : releases[release]? = some entry)
    (phase : ReleasePhase) (hsucceeds : entry.phase.Succeeded → phase.Succeeded)
    (hnone : ∀ next ∈ releases.set release { entry with phase := phase }, ¬ next.phase.Succeeded) : lease = true := by
  have hlt : release < releases.length := (List.getElem?_eq_some_iff.mp hentry).1
  apply h.kept
  · intro hnil
    simp [hnil] at hlt
  · intro other hmem hother
    obtain ⟨index, hindex⟩ := List.getElem?_of_mem hmem
    by_cases heq : release = index
    · subst heq
      rw [hentry] at hindex
      obtain rfl := Option.some.inj hindex
      apply hnone { entry with phase := phase }
      · exact List.mem_of_getElem? (List.getElem?_set_self hlt)
      · exact hsucceeds hother
    · apply hnone other _ hother
      rw [← List.getElem?_set_ne heq] at hindex
      exact List.mem_of_getElem? hindex

/-- The promise of a release settles, and stays shared. -/
theorem settle (h : ReleaseLedger lease releasePromise releases) (hentry : releases[release]? = some entry)
    (hpending : entry.phase = .pending) (resolved : Bool) :
    ReleaseLedger lease releasePromise (releases.set release { entry with phase := .settled resolved }) := by
  have hlt : release < releases.length := (List.getElem?_eq_some_iff.mp hentry).1
  have hopen : entry.phase.Open := by
    rw [hpending]
    trivial
  have hshared := h.shared release entry hentry hopen
  constructor
  · intro other next hnext hnextOpen
    by_cases heq : release = other
    · rw [← heq]
      exact hshared
    · rw [List.getElem?_set_ne heq] at hnext
      exact h.shared other next hnext hnextOpen
  · intro other hpromise
    rw [hshared] at hpromise
    obtain rfl := Option.some.inj hpromise
    exact ⟨_, List.getElem?_set_self hlt, trivial⟩
  · exact fun _ _ hnext hphase => h.set_last hentry hopen _ hnext hphase
  · intro _ hnone
    apply h.set_kept hentry _ _ hnone
    intro hsucceeded
    rw [hpending] at hsucceeded
    rcases hsucceeded with heq | heq <;> cases heq

/-- The `finally` of a release runs, and no release is open. -/
theorem finish (h : ReleaseLedger lease releasePromise releases) {resolved : Bool}
    (hentry : releases[release]? = some entry) (hsettled : entry.phase = .settled resolved) :
    ReleaseLedger lease none (releases.set release { entry with phase := .finalized resolved }) := by
  have hlt : release < releases.length := (List.getElem?_eq_some_iff.mp hentry).1
  have hopen : entry.phase.Open := by
    rw [hsettled]
    trivial
  have hshared := h.shared release entry hentry hopen
  constructor
  · intro other next hnext hnextOpen
    by_cases heq : release = other
    · subst heq
      rw [List.getElem?_set_self hlt] at hnext
      obtain rfl := Option.some.inj hnext
      exact hnextOpen.elim
    · -- the open release was the only one
      rw [List.getElem?_set_ne heq] at hnext
      rw [h.shared other next hnext hnextOpen] at hshared
      exact absurd (Option.some.inj hshared).symm heq
  · intro other hnone
    cases hnone
  · exact fun _ _ hnext hphase => h.set_last hentry hopen _ hnext hphase
  · intro _ hnone
    apply h.set_kept hentry _ _ hnone
    intro hsucceeded
    rw [hsettled] at hsucceeded
    rcases hsucceeded with heq | heq
    · right
      rw [ReleasePhase.settled.inj heq]
    · cases heq

end ReleaseLedger

namespace Broker

/-- A release has succeeded and is over, and the lease is still there: its first caller has yet to resume. -/
def Unnoticed (b : Broker) : Prop :=
  b.lease = true ∧ ∃ entry ∈ b.releases, entry.phase = .finalized true

/-- `runtime` is not `null`. -/
def hasRuntime (b : Broker) : Bool :=
  b.runtime && b.inner.isSome

/-- Whether a turn gets to a call of `releaseOnce()`. -/
def getsToRelease (b : Broker) : BrokerAction → Bool
  | .acquired (.lease false) _ => false
  | .acquired _ _ => true
  | .runtimeStarted _ => b.runtimeStart == some false
  | .shutdown _ => b.state != .stopped && b.state != .starting && !b.hasRuntime
  | .startAwaited _ _ => b.state != .stopped && !b.hasRuntime
  | .runtimeResumes task _ =>
      match b.shutdowns[task]? with
      | some (.awaitingRuntime reply) => b.replied reply == some (some true)
      | _ => false
  | .leaseExpires _ => b.state == .running && !b.hasRuntime
  | _ => false

/-- No turn gets to `releaseOnce()` while a successful release is unnoticed. -/
def ReleasesNoticed (b : Broker) (action : BrokerAction) : Prop :=
  ¬ (b.getsToRelease action = true ∧ b.Unnoticed)

instance (b : Broker) : Decidable b.Unnoticed :=
  inferInstanceAs (Decidable (_ ∧ _))

instance (b : Broker) (action : BrokerAction) : Decidable (b.ReleasesNoticed action) :=
  inferInstanceAs (Decidable (¬ _))

end Broker

/-- `start()` is under way. -/
def BrokerStart.Pending : BrokerStart → Prop
  | .notCalled => False
  | .settled _ => False
  | _ => True

namespace Broker

/-- What holds of a lease-bound runtime in the runs in which every release is noticed before the next. -/
structure OnceInvariant (b : Broker) : Prop where
  ledger : ReleaseLedger b.lease b.releasePromise b.releases
  live : b.lease = true → b.state ≠ .stopped
  nothing : .releasing none ∈ b.shutdowns → b.lease = false
  startNothing : b.start = .releasing none → b.lease = false
  early : b.start = .notCalled ∨ b.start = .acquiring → b.lease = false ∧ b.releases = []
  starting : b.start.Pending → b.state = .starting ∧ ∀ phase ∈ b.shutdowns, phase = .awaitingStart
  idle : b.state = .idle → b.start = .notCalled ∧ b.shutdowns = []

section Invariant

variable {b b' : Broker} {action : BrokerAction} {throws : Bool} {task : Nat}

theorem onceInvariant_initial : OnceInvariant initial := by
  constructor
  · exact ReleaseLedger.nil none rfl
  · intro hlease
    cases hlease
  · intro hmem
    cases hmem
  · intro hstart
    cases hstart
  · exact fun _ => ⟨rfl, rfl⟩
  · exact fun hpending => hpending.elim
  · exact fun _ => ⟨rfl, rfl⟩

/-- Without a lease `releaseOnce()` does nothing, with an open release it shares that one, and otherwise it calls
`releaseTenantLease`. -/
theorem releaseOnce_cases (b : Broker) (throws : Bool) :
    b.lease = false ∧ b.releaseOnce throws = (b, none) ∨
    (∃ release, b.lease = true ∧ b.releasePromise = some release ∧ b.releaseOnce throws = (b, some release)) ∨
    ∃ entry promise, b.lease = true ∧ b.releasePromise = none ∧
      (entry.phase = .pending ∧ promise = some b.releases.length ∨ entry.phase = .finalized false ∧ promise = none) ∧
      b.releaseOnce throws =
        ({ b with releases := b.releases ++ [entry], releasePromise := promise }, some b.releases.length) := by
  unfold releaseOnce
  by_cases hlease : b.lease = true
  · right
    rw [if_pos hlease]
    cases hpromise : b.releasePromise with
    | some release =>
        left
        exact ⟨release, hlease, rfl, rfl⟩
    | none =>
        right
        cases throws with
        | true =>
            refine ⟨{ inner := b.inner, phase := .finalized false }, none, hlease, rfl, .inr ⟨rfl, rfl⟩, ?_⟩
            simp
        | false =>
            refine ⟨{ inner := b.inner, phase := .pending }, some b.releases.length, hlease, rfl, .inl ⟨rfl, rfl⟩, ?_⟩
            simp
  · left
    rw [if_neg hlease]
    exact ⟨eq_false_of_ne_true hlease, rfl⟩

/-- `releaseOnce()` changes the calls of `releaseTenantLease` only. -/
theorem releaseOnce_frame (b : Broker) (throws : Bool) :
    ∃ releases promise, (b.releaseOnce throws).1 = { b with releases := releases, releasePromise := promise } := by
  rcases b.releaseOnce_cases throws with ⟨_, h⟩ | ⟨_, _, _, h⟩ | ⟨entry, promise, _, _, _, h⟩
  · exact ⟨b.releases, b.releasePromise, by rw [h]⟩
  · exact ⟨b.releases, b.releasePromise, by rw [h]⟩
  · exact ⟨b.releases ++ [entry], promise, by rw [h]⟩

/-- A caller has nothing to wait for only without a lease. -/
theorem lease_of_releaseOnce (h : (b.releaseOnce throws).2 = none) : (b.releaseOnce throws).1.lease = false := by
  rcases b.releaseOnce_cases throws with ⟨hlease, heq⟩ | ⟨_, _, _, heq⟩ | ⟨_, _, _, _, _, heq⟩
  · rw [heq]
    exact hlease
  · rw [heq] at h
    cases h
  · rw [heq] at h
    cases h

/-- A release is called for only after all others have failed. -/
theorem ledger_releaseOnce (throws : Bool) (h : ReleaseLedger b.lease b.releasePromise b.releases)
    (hnoticed : ¬ b.Unnoticed) :
    ReleaseLedger (b.releaseOnce throws).1.lease (b.releaseOnce throws).1.releasePromise
      (b.releaseOnce throws).1.releases := by
  rcases b.releaseOnce_cases throws with ⟨_, heq⟩ | ⟨_, _, _, heq⟩ | ⟨entry, promise, hlease, hnone, hphase, heq⟩
  · rw [heq]
    exact h
  · rw [heq]
    exact h
  · rw [heq]
    show ReleaseLedger b.lease promise (b.releases ++ [entry])
    rw [hlease]
    rw [hnone] at h
    apply ReleaseLedger.add _ entry hphase
    apply h.failed_of_idle
    exact fun other hmem hother => hnoticed ⟨hlease, other, hmem, hother⟩

theorem OnceInvariant.releaseOnce (h : b.OnceInvariant) (hnoticed : ¬ b.Unnoticed) :
    (b.releaseOnce throws).1.OnceInvariant := by
  have hledger := ledger_releaseOnce throws h.ledger hnoticed
  obtain ⟨releases, promise, heq⟩ := b.releaseOnce_frame throws
  constructor
  · exact hledger
  · rw [heq]
    exact h.live
  · rw [heq]
    exact h.nothing
  · rw [heq]
    exact h.startNothing
  · intro hstart
    rw [heq] at hstart
    have hearly := h.early hstart
    rcases b.releaseOnce_cases throws with ⟨_, hsame⟩ | ⟨_, hlease, _, _⟩ | ⟨_, _, hlease, _, _, _⟩
    · rw [hsame]
      exact hearly
    · rw [hearly.1] at hlease
      cases hlease
    · rw [hearly.1] at hlease
      cases hlease
  · rw [heq]
    exact h.starting
  · rw [heq]
    exact h.idle

/-- A promise of `shutdown()` moves on after the start. -/
theorem OnceInvariant.setShutdown (h : b.OnceInvariant) (hpending : ¬ b.start.Pending) {phase : BrokerShutdown}
    (hphase : phase = .releasing none → b.lease = false) : (b.setShutdown task phase).OnceInvariant := by
  constructor
  · exact h.ledger
  · exact h.live
  · intro hmem
    rcases List.mem_or_eq_of_mem_set hmem with hold | hnew
    · exact h.nothing hold
    · exact hphase hnew.symm
  · exact h.startNothing
  · exact h.early
  · exact fun hstart => absurd hstart hpending
  · intro hidle
    obtain ⟨hstart, hshutdowns⟩ := h.idle hidle
    constructor
    · exact hstart
    · show b.shutdowns.set task phase = []
      rw [hshutdowns]
      rfl

/-- After the start, the state, the runtime and the watchdog do not matter. -/
theorem OnceInvariant.frame (h : b.OnceInvariant) (hpending : ¬ b.start.Pending) (inner : Option TenantRuntime)
    (runtime watchdog : Bool) {state : BrokerState} (hstate : state ≠ .stopped ∧ state ≠ .idle) :
    OnceInvariant { b with state := state, inner := inner, runtime := runtime, watchdog := watchdog } := by
  constructor
  · exact h.ledger
  · exact fun _ => hstate.1
  · exact h.nothing
  · exact h.startNothing
  · exact h.early
  · exact fun hstart => absurd hstart hpending
  · exact fun hidle => absurd hidle hstate.2

theorem OnceInvariant.releaseLease (h : b.OnceInvariant) (hpending : ¬ b.start.Pending) (hnoticed : ¬ b.Unnoticed) :
    (b.releaseLease task throws).OnceInvariant := by
  apply (h.releaseOnce hnoticed).setShutdown
  · obtain ⟨_, _, heq⟩ := b.releaseOnce_frame throws
    rw [heq]
    exact hpending
  · intro hphase
    exact lease_of_releaseOnce (BrokerShutdown.releasing.inj hphase)

/-- Without a runtime `shutdown()` goes on to release the lease. -/
theorem runShutdown_of_no_runtime (h : b.hasRuntime = false) :
    b.runShutdown task throws = { b with state := .stopping }.releaseLease task throws := by
  unfold hasRuntime at h
  unfold Broker.runShutdown
  split
  · rename_i hruntime hinner
    rw [hruntime, hinner] at h
    cases h
  · rfl

/-- With a runtime `shutdown()` asks it first. -/
theorem runShutdown_of_runtime (task : Nat) (throws : Bool) (h : b.hasRuntime = true) :
    ∃ inner reply, b.runShutdown task throws =
      { b with state := .stopping, inner := inner }.setShutdown task (.awaitingRuntime reply) := by
  rw [hasRuntime, Bool.and_eq_true, Option.isSome_iff_exists] at h
  obtain ⟨hruntime, runtime, hinner⟩ := h
  refine ⟨some runtime.callShutdown.1, runtime.callShutdown.2, ?_⟩
  unfold Broker.runShutdown
  rw [hruntime, hinner]

theorem OnceInvariant.runShutdown (h : b.OnceInvariant) (hpending : ¬ b.start.Pending)
    (hnoticed : b.hasRuntime = false → ¬ b.Unnoticed) : (b.runShutdown task throws).OnceInvariant := by
  have hstate : BrokerState.stopping ≠ .stopped ∧ BrokerState.stopping ≠ .idle := by decide
  cases hruntime : b.hasRuntime with
  | false =>
      rw [runShutdown_of_no_runtime hruntime]
      apply OnceInvariant.releaseLease
      · exact h.frame hpending _ _ _ hstate
      · exact hpending
      · exact hnoticed hruntime
  | true =>
      obtain ⟨inner, reply, heq⟩ := runShutdown_of_runtime task throws hruntime
      rw [heq]
      apply OnceInvariant.setShutdown
      · exact h.frame hpending _ _ _ hstate
      · exact hpending
      · exact fun hphase => BrokerShutdown.noConfusion hphase

theorem OnceInvariant.callShutdown (h : b.OnceInvariant)
    (hnoticed : b.state ≠ .stopped → b.state ≠ .starting → b.hasRuntime = false → ¬ b.Unnoticed) :
    (b.callShutdown throws).OnceInvariant := by
  unfold Broker.callShutdown
  by_cases hstopped : b.state = .stopped
  · rw [if_pos hstopped]
    exact h
  · rw [if_neg hstopped]
    have hnothing (hmem : .releasing none ∈ b.shutdowns ++ [.awaitingStart]) : b.lease = false := by
      rcases List.mem_append.mp hmem with hold | hnew
      · exact h.nothing hold
      · cases List.mem_singleton.mp hnew
    by_cases hstarting : b.state = .starting
    · rw [if_pos hstarting]
      constructor
      · exact h.ledger
      · exact h.live
      · exact hnothing
      · exact h.startNothing
      · exact h.early
      · intro hstart
        obtain ⟨hstate, hall⟩ := h.starting hstart
        constructor
        · exact hstate
        · intro phase hmem
          rcases List.mem_append.mp hmem with hold | hnew
          · exact hall phase hold
          · exact List.mem_singleton.mp hnew
      · intro hidle
        exact absurd (hidle.symm.trans hstarting) (by decide)
    · rw [if_neg hstarting]
      have hpending : ¬ b.start.Pending := fun hstart => hstarting (h.starting hstart).1
      -- the state is `stopping` before anything else is looked at
      have hbegun : OnceInvariant { b with state := .stopping, shutdowns := b.shutdowns ++ [.awaitingStart] } := by
        constructor
        · exact h.ledger
        · exact fun _ heq => BrokerState.noConfusion heq
        · exact hnothing
        · exact h.startNothing
        · exact h.early
        · exact fun hstart => absurd hstart hpending
        · exact fun heq => BrokerState.noConfusion heq
      exact hbegun.runShutdown hpending (hnoticed hstopped hstarting)

/-- The `catch` of `start()`: no `shutdown()` has begun. -/
theorem onceInvariant_startFails (hledger : ReleaseLedger b.lease b.releasePromise b.releases)
    (hstarting : b.state = .starting) (hshutdowns : ∀ phase ∈ b.shutdowns, phase = .awaitingStart)
    (hnoticed : ¬ b.Unnoticed) : (b.startFails throws).OnceInvariant := by
  have hnext := ledger_releaseOnce throws hledger hnoticed
  obtain ⟨releases, promise, heq⟩ := b.releaseOnce_frame throws
  have hstate : (b.startFails throws).state = .starting := by
    show (b.releaseOnce throws).1.state = .starting
    rw [heq]
    exact hstarting
  have hkeeps : (b.startFails throws).shutdowns = b.shutdowns := by
    show (b.releaseOnce throws).1.shutdowns = b.shutdowns
    rw [heq]
  constructor
  · exact hnext
  · intro _ hstopped
    exact absurd (hstopped.symm.trans hstate) (by decide)
  · intro hmem
    rw [hkeeps] at hmem
    cases hshutdowns _ hmem
  · exact fun hstart => lease_of_releaseOnce (BrokerStart.releasing.inj hstart)
  · intro hstart
    rcases hstart with hstart | hstart <;> cases hstart
  · intro _
    rw [hkeeps]
    exact ⟨hstate, hshutdowns⟩
  · intro hidle
    exact absurd (hidle.symm.trans hstate) (by decide)

theorem OnceInvariant.acquired (h : b.OnceInvariant) (hstart : b.start = .acquiring) (outcome : LeaseOutcome) :
    (b.acquired outcome throws).OnceInvariant := by
  obtain ⟨hlease, hreleases⟩ := h.early (.inr hstart)
  obtain ⟨hstarting, hshutdowns⟩ := h.starting (by rw [hstart]; trivial)
  have hunreleased {lease : Bool} : ReleaseLedger lease b.releasePromise b.releases := by
    rw [hreleases]
    apply ReleaseLedger.nil
    -- nothing has been released, so no release is open
    cases hpromise : b.releasePromise with
    | none => rfl
    | some release =>
        obtain ⟨entry, hentry, -⟩ := h.ledger.opened release hpromise
        simp [hreleases] at hentry
  have hnoticed {b' : Broker} (hsame : b'.releases = b.releases) : ¬ b'.Unnoticed := by
    rintro ⟨-, entry, hmem, -⟩
    rw [hsame, hreleases] at hmem
    cases hmem
  cases outcome with
  | raised => exact onceInvariant_startFails hunreleased hstarting hshutdowns (hnoticed rfl)
  | invalid => exact onceInvariant_startFails hunreleased hstarting hshutdowns (hnoticed rfl)
  | lease factoryThrows =>
      cases factoryThrows with
      | true => exact onceInvariant_startFails hunreleased hstarting hshutdowns (hnoticed rfl)
      | false =>
          constructor
          · exact hunreleased
          · intro _ hstopped
            exact absurd (hstopped.symm.trans hstarting) (by decide)
          · intro hmem
            cases hshutdowns _ hmem
          · intro heq
            cases heq
          · intro heq
            rcases heq with heq | heq <;> cases heq
          · exact fun _ => ⟨hstarting, hshutdowns⟩
          · exact fun hidle => absurd (hidle.symm.trans hstarting) (by decide)

theorem OnceInvariant.runtimeStarted (h : b.OnceInvariant) (hstart : b.start = .startingRuntime) {started : Bool}
    (hnoticed : started = false → ¬ b.Unnoticed) : (b.runtimeStarted started throws).OnceInvariant := by
  obtain ⟨hstarting, hshutdowns⟩ := h.starting (by rw [hstart]; trivial)
  cases started with
  | false => exact onceInvariant_startFails h.ledger hstarting hshutdowns (hnoticed rfl)
  | true =>
      constructor
      · exact h.ledger
      · exact fun _ heq => BrokerState.noConfusion heq
      · exact h.nothing
      · intro heq
        cases heq
      · intro heq
        rcases heq with heq | heq <;> cases heq
      · exact fun hpending => hpending.elim
      · exact fun heq => BrokerState.noConfusion heq

/-- Who has waited for a release that succeeded may forget the lease. -/
theorem ledger_released (h : ReleaseLedger b.lease b.releasePromise b.releases) {release : Option Nat}
    (hnothing : release = none → b.lease = false) (hreleased : b.released release = some true) :
    ReleaseLedger false b.releasePromise b.releases := by
  apply h.forget
  cases release with
  | none =>
      left
      exact hnothing rfl
  | some release =>
      right
      simp only [Broker.released] at hreleased
      split at hreleased
      · rename_i resolved hphase
        obtain rfl := Option.some.inj hreleased
        obtain ⟨entry, hentry, hfinalized⟩ := Option.map_eq_some_iff.mp hphase
        exact ⟨entry, List.mem_of_getElem? hentry, .inr hfinalized⟩
      · cases hreleased

theorem OnceInvariant.startReleased (h : b.OnceInvariant) {release : Option Nat}
    (hstart : b.start = .releasing release) {resolved : Bool} (hreleased : b.released release = some resolved) :
    (b.startReleased resolved).OnceInvariant := by
  obtain ⟨-, hshutdowns⟩ := h.starting (by rw [hstart]; trivial)
  constructor
  · show ReleaseLedger (b.lease && !resolved) b.releasePromise b.releases
    cases resolved with
    | false =>
        rw [Bool.not_false, Bool.and_true]
        exact h.ledger
    | true =>
        rw [Bool.not_true, Bool.and_false]
        apply ledger_released h.ledger _ hreleased
        intro hnone
        subst hnone
        exact h.startNothing hstart
  · intro hlease hstopped
    simp only [Broker.startReleased] at hlease hstopped
    rw [if_pos hlease] at hstopped
    cases hstopped
  · intro hmem
    cases hshutdowns _ hmem
  · intro heq
    cases heq
  · intro heq
    rcases heq with heq | heq <;> cases heq
  · exact fun hpending => hpending.elim
  · intro hidle
    simp only [Broker.startReleased] at hidle
    split at hidle <;> cases hidle

theorem OnceInvariant.startAwaited (h : b.OnceInvariant) (hpending : ¬ b.start.Pending)
    (hnoticed : b.state ≠ .stopped → b.hasRuntime = false → ¬ b.Unnoticed) :
    (b.startAwaited task throws).OnceInvariant := by
  unfold Broker.startAwaited
  by_cases hstopped : b.state = .stopped
  · rw [if_pos hstopped]
    exact h.setShutdown hpending fun hphase => BrokerShutdown.noConfusion hphase
  · rw [if_neg hstopped]
    exact h.runShutdown hpending (hnoticed hstopped)

theorem OnceInvariant.runtimeResumes (h : b.OnceInvariant) (hpending : ¬ b.start.Pending) {result : Option Bool}
    (hnoticed : result = some true → ¬ b.Unnoticed) : (b.runtimeResumes task result throws).OnceInvariant := by
  have hdraining : OnceInvariant { b with state := .draining } := h.frame hpending _ _ _ (by decide)
  unfold Broker.runtimeResumes
  split
  · exact h.releaseLease hpending (hnoticed rfl)
  · exact hdraining.setShutdown hpending fun hphase => BrokerShutdown.noConfusion hphase
  · exact hdraining.setShutdown hpending fun hphase => BrokerShutdown.noConfusion hphase

theorem OnceInvariant.shutdownReleased (h : b.OnceInvariant) (hpending : ¬ b.start.Pending) {release : Option Nat}
    (htask : .releasing release ∈ b.shutdowns) {resolved : Bool} (hreleased : b.released release = some resolved) :
    (b.shutdownReleased task resolved).OnceInvariant := by
  unfold Broker.shutdownReleased
  cases resolved with
  | false =>
      rw [if_neg Bool.false_ne_true]
      apply OnceInvariant.setShutdown
      · exact h.frame hpending _ _ _ (by decide)
      · exact hpending
      · exact fun hphase => BrokerShutdown.noConfusion hphase
  | true =>
      rw [if_pos rfl]
      apply OnceInvariant.setShutdown
      · constructor
        · apply ledger_released h.ledger _ hreleased
          intro hnone
          subst hnone
          exact h.nothing htask
        · intro heq
          cases heq
        · exact fun _ => rfl
        · exact fun _ => rfl
        · exact fun hstart => ⟨rfl, (h.early hstart).2⟩
        · exact fun hstart => absurd hstart hpending
        · exact fun heq => BrokerState.noConfusion heq
      · exact hpending
      · exact fun _ => rfl

/-- The ledger moves on by itself. -/
theorem OnceInvariant.withLedger (h : b.OnceInvariant) {releasePromise : Option Nat} {releases : List Release}
    (hledger : ReleaseLedger b.lease releasePromise releases) (hne : b.releases ≠ []) :
    OnceInvariant { b with releases := releases, releasePromise := releasePromise } := by
  constructor
  · exact hledger
  · exact h.live
  · exact h.nothing
  · exact h.startNothing
  · exact fun hstart => absurd (h.early hstart).2 hne
  · exact h.starting
  · exact h.idle

/-- A promise of `shutdown()` that no longer waits for the start: the start is over. -/
theorem OnceInvariant.not_pending (h : b.OnceInvariant) {phase : BrokerShutdown}
    (htask : b.shutdowns[task]? = some phase) (hphase : phase ≠ .awaitingStart) : ¬ b.start.Pending :=
  fun hstart => hphase ((h.starting hstart).2 phase (List.mem_of_getElem? htask))

theorem OnceInvariant.step (h : b.OnceInvariant) (hnoticed : ReleasesNoticed b action)
    (hstep : b.step action = some b') : b'.OnceInvariant := by
  have hgets (hgets : b.getsToRelease action = true) : ¬ b.Unnoticed := fun hunnoticed => hnoticed ⟨hgets, hunnoticed⟩
  cases action with
  | start =>
      obtain rfl := Option.some.inj hstep
      unfold Broker.callStart
      split
      · rename_i hidle
        obtain ⟨hstart, hshutdowns⟩ := h.idle hidle
        have hearly := h.early (.inl hstart)
        constructor
        · exact h.ledger
        · exact fun _ heq => BrokerState.noConfusion heq
        · exact h.nothing
        · intro heq
          cases heq
        · exact fun _ => hearly
        · intro _
          constructor
          · rfl
          · intro phase hmem
            rw [hshutdowns] at hmem
            cases hmem
        · exact fun heq => BrokerState.noConfusion heq
      · exact h
  | acquired outcome throws =>
      simp only [Broker.step] at hstep
      split at hstep
      · rename_i hstart
        obtain rfl := Option.some.inj hstep
        exact h.acquired hstart outcome
      · cases hstep
  | runtime action =>
      simp only [Broker.step] at hstep
      split at hstep
      · split at hstep
        · obtain rfl := Option.some.inj hstep
          exact ⟨h.ledger, h.live, h.nothing, h.startNothing, h.early, h.starting, h.idle⟩
        · cases hstep
      · cases hstep
  | runtimeStarted throws =>
      simp only [Broker.step] at hstep
      split at hstep
      · rename_i hstart
        split at hstep
        · rename_i started hstarted
          obtain rfl := Option.some.inj hstep
          apply h.runtimeStarted hstart
          intro hfalse
          apply hgets
          simp [getsToRelease, hstarted, hfalse]
        · cases hstep
      · cases hstep
  | startReleased =>
      simp only [Broker.step] at hstep
      split at hstep
      · rename_i release hstart
        split at hstep
        · rename_i resolved hreleased
          obtain rfl := Option.some.inj hstep
          exact h.startReleased hstart hreleased
        · cases hstep
      · cases hstep
  | shutdown throws =>
      obtain rfl := Option.some.inj hstep
      apply h.callShutdown
      intro hstopped hstarting hruntime
      apply hgets
      simp [getsToRelease, hstopped, hstarting, hruntime]
  | startAwaited task throws =>
      simp only [Broker.step] at hstep
      split at hstep
      · rename_i started _ hstart
        obtain rfl := Option.some.inj hstep
        apply h.startAwaited
        · rw [hstart]
          exact fun hpending => hpending
        · intro hstopped hruntime
          apply hgets
          simp [getsToRelease, hstopped, hruntime]
      · cases hstep
  | runtimeResumes task throws =>
      simp only [Broker.step] at hstep
      split at hstep
      · rename_i reply htask
        split at hstep
        · rename_i result hreplied
          obtain rfl := Option.some.inj hstep
          apply h.runtimeResumes
          · exact h.not_pending htask fun heq => BrokerShutdown.noConfusion heq
          · intro hstopped
            apply hgets
            simp [getsToRelease, htask, hreplied, hstopped]
        · cases hstep
      · cases hstep
  | shutdownReleased task =>
      simp only [Broker.step] at hstep
      split at hstep
      · rename_i release htask
        split at hstep
        · rename_i resolved hreleased
          obtain rfl := Option.some.inj hstep
          apply h.shutdownReleased
          · exact h.not_pending htask fun heq => BrokerShutdown.noConfusion heq
          · exact List.mem_of_getElem? htask
          · exact hreleased
        · cases hstep
      · cases hstep
  | leaseExpires throws =>
      simp only [Broker.step] at hstep
      have hfired : OnceInvariant { b with watchdog := false } :=
        ⟨h.ledger, h.live, h.nothing, h.startNothing, h.early, h.starting, h.idle⟩
      split at hstep
      · obtain rfl := Option.some.inj hstep
        split
        · rename_i hrunning
          apply hfired.callShutdown
          intro _ _ hruntime
          apply hgets
          have hsame : b.hasRuntime = false := hruntime
          simp [getsToRelease, hrunning, hsame]
        · exact hfired
      · cases hstep
  | releaseSettles release resolved =>
      simp only [Broker.step] at hstep
      split at hstep
      · rename_i entry hentry
        split at hstep
        · rename_i hpending
          obtain rfl := Option.some.inj hstep
          apply h.withLedger (h.ledger.settle hentry hpending resolved)
          exact List.ne_nil_of_mem (List.mem_of_getElem? hentry)
        · cases hstep
      · cases hstep
  | releaseFinally release =>
      simp only [Broker.step] at hstep
      split at hstep
      · rename_i entry hentry
        split at hstep
        · rename_i resolved hsettled
          obtain rfl := Option.some.inj hstep
          apply h.withLedger (h.ledger.finish hentry hsettled)
          exact List.ne_nil_of_mem (List.mem_of_getElem? hentry)
        · cases hstep
      · cases hstep

theorem onceInvariant_reached (h : Reaches Broker.step ReleasesNoticed initial b) : b.OnceInvariant :=
  h.invariant onceInvariant_initial fun _ _ _ hinv hnoticed hstep => hinv.step hnoticed hstep

/-! ## The lease -/

/-- Every call of `releaseTenantLease` so far has failed, and there has been one. -/
def ReleaseFailed (b : Broker) : Prop :=
  b.releases ≠ [] ∧ ∀ entry ∈ b.releases, entry.phase = .finalized false

/-- After a release has succeeded there is no other, one at most is under way, and after a failed one the lease is
kept: a `shutdown()` waits for the start or the runtime, or gets to a further release at once, as every turn does
that gets to `releaseOnce()`. -/
structure ReleasedOnce (b : Broker) : Prop where
  once : ∀ release entry, b.releases[release]? = some entry → entry.phase.Succeeded → release + 1 = b.releases.length
  single : ∀ (release other : Nat) (entry entry' : Release), b.releases[release]? = some entry → b.releases[other]? = some entry' →
    entry.phase = .pending → entry'.phase = .pending → release = other
  kept : b.releases ≠ [] → (∀ entry ∈ b.releases, ¬ entry.phase.Succeeded) → b.lease = true ∧ b.state ≠ .stopped
  waits : b.ReleaseFailed → ∀ throws b', b.getsToRelease (.shutdown throws) = false →
    b.step (.shutdown throws) = some b' → ∃ phase, b'.shutdowns = b.shutdowns ++ [phase] ∧
      (phase = .awaitingStart ∨ ∃ reply, phase = .awaitingRuntime reply)
  retries : b.ReleaseFailed → ∀ action b', b.getsToRelease action = true → b.step action = some b' →
    ∃ entry, b'.releases = b.releases ++ [entry]

/-- With a lease and no open release, `releaseOnce()` calls `releaseTenantLease`. -/
theorem releases_releaseOnce (hlease : b.lease = true) (hnone : b.releasePromise = none) :
    ∃ entry, (b.releaseOnce throws).1.releases = b.releases ++ [entry] := by
  rcases b.releaseOnce_cases throws with ⟨hno, _⟩ | ⟨_, _, hopen, _⟩ | ⟨entry, _, _, _, _, heq⟩
  · rw [hlease] at hno
    cases hno
  · rw [hnone] at hopen
    cases hopen
  · exact ⟨entry, by rw [heq]⟩

theorem releases_runShutdown (hruntime : b.hasRuntime = false) (hlease : b.lease = true)
    (hnone : b.releasePromise = none) : ∃ entry, (b.runShutdown task throws).releases = b.releases ++ [entry] := by
  rw [runShutdown_of_no_runtime hruntime]
  exact releases_releaseOnce (b := { b with state := .stopping }) hlease hnone

theorem releases_callShutdown (hstopped : b.state ≠ .stopped) (hstarting : b.state ≠ .starting)
    (hruntime : b.hasRuntime = false) (hlease : b.lease = true) (hnone : b.releasePromise = none) :
    ∃ entry, (b.callShutdown throws).releases = b.releases ++ [entry] := by
  unfold Broker.callShutdown
  rw [if_neg hstopped, if_neg hstarting]
  exact releases_runShutdown (b := { b with shutdowns := b.shutdowns ++ [.awaitingStart] }) hruntime hlease hnone

/-- A turn that gets to `releaseOnce()` with a lease and no open release calls `releaseTenantLease`. -/
theorem releases_of_getsToRelease (hgets : b.getsToRelease action = true) (hlease : b.lease = true)
    (hnone : b.releasePromise = none) (hstep : b.step action = some b') :
    ∃ entry, b'.releases = b.releases ++ [entry] := by
  cases action with
  | acquired outcome throws =>
      simp only [Broker.step] at hstep
      split at hstep
      · obtain rfl := Option.some.inj hstep
        cases outcome with
        | raised => exact releases_releaseOnce hlease hnone
        | invalid => exact releases_releaseOnce hlease hnone
        | lease factoryThrows =>
            cases factoryThrows with
            | true => exact releases_releaseOnce (b := { b with lease := true }) rfl hnone
            | false => cases hgets
      · cases hstep
  | runtimeStarted throws =>
      have hfailed : b.runtimeStart = some false := by simpa [getsToRelease] using hgets
      simp only [Broker.step, hfailed] at hstep
      split at hstep
      · obtain rfl := Option.some.inj hstep
        exact releases_releaseOnce hlease hnone
      · cases hstep
  | shutdown throws =>
      obtain rfl := Option.some.inj hstep
      have hbranch : (b.state ≠ .stopped ∧ b.state ≠ .starting) ∧ b.hasRuntime = false := by
        simpa [getsToRelease] using hgets
      exact releases_callShutdown hbranch.1.1 hbranch.1.2 hbranch.2 hlease hnone
  | startAwaited task throws =>
      have hbranch : b.state ≠ .stopped ∧ b.hasRuntime = false := by simpa [getsToRelease] using hgets
      simp only [Broker.step] at hstep
      split at hstep
      · obtain rfl := Option.some.inj hstep
        unfold Broker.startAwaited
        rw [if_neg hbranch.1]
        exact releases_runShutdown hbranch.2 hlease hnone
      · cases hstep
  | runtimeResumes task throws =>
      simp only [getsToRelease] at hgets
      split at hgets
      · rename_i reply htask
        have hreplied : b.replied reply = some (some true) := by simpa using hgets
        simp only [Broker.step, htask, hreplied] at hstep
        obtain rfl := Option.some.inj hstep
        exact releases_releaseOnce hlease hnone
      · cases hgets
  | leaseExpires throws =>
      have hbranch : b.state = .running ∧ b.hasRuntime = false := by simpa [getsToRelease] using hgets
      simp only [Broker.step] at hstep
      split at hstep
      · obtain rfl := Option.some.inj hstep
        rw [if_pos hbranch.1]
        have hnot : b.state ≠ .stopped ∧ b.state ≠ .starting := by
          rw [hbranch.1]
          decide
        exact releases_callShutdown (b := { b with watchdog := false }) hnot.1 hnot.2 hbranch.2 hlease hnone
      · cases hstep
  | _ => cases hgets

/-- While a lease is kept, `shutdown()` waits or gets to a release. -/
theorem waits_callShutdown (hstopped : b.state ≠ .stopped) (hwaits : b.getsToRelease (.shutdown throws) = false) :
    ∃ phase, (b.callShutdown throws).shutdowns = b.shutdowns ++ [phase] ∧
      (phase = .awaitingStart ∨ ∃ reply, phase = .awaitingRuntime reply) := by
  unfold Broker.callShutdown
  rw [if_neg hstopped]
  by_cases hstarting : b.state = .starting
  · rw [if_pos hstarting]
    exact ⟨.awaitingStart, rfl, .inl rfl⟩
  · rw [if_neg hstarting]
    have hruntime : b.hasRuntime = true := by simpa [getsToRelease, hstopped, hstarting] using hwaits
    obtain ⟨_, reply, heq⟩ := runShutdown_of_runtime (b := { b with shutdowns := b.shutdowns ++ [.awaitingStart] })
      b.shutdowns.length throws hruntime
    refine ⟨.awaitingRuntime reply, ?_, .inr ⟨reply, rfl⟩⟩
    rw [heq]
    show (b.shutdowns ++ [BrokerShutdown.awaitingStart]).set b.shutdowns.length _ = _
    rw [List.set_append_right _ _ (Nat.le_refl _), Nat.sub_self]
    rfl

theorem OnceInvariant.releasedOnce (h : b.OnceInvariant) : b.ReleasedOnce := by
  have hkept (hfailed : b.ReleaseFailed) : b.lease = true := by
    apply h.ledger.kept hfailed.1
    intro entry hmem hsucceeded
    rw [ReleasePhase.Succeeded, hfailed.2 entry hmem] at hsucceeded
    rcases hsucceeded with heq | heq <;> cases heq
  have hidle (hfailed : b.ReleaseFailed) : b.releasePromise = none := by
    cases hpromise : b.releasePromise with
    | none => rfl
    | some release =>
        obtain ⟨entry, hentry, hopen⟩ := h.ledger.opened release hpromise
        rw [hfailed.2 entry (List.mem_of_getElem? hentry)] at hopen
        exact hopen.elim
  constructor
  · intro release entry hentry hsucceeded
    apply h.ledger.last release entry hentry
    intro hfailed
    rw [hfailed] at hsucceeded
    rcases hsucceeded with heq | heq <;> cases heq
  · intro release other entry entry' hentry hentry' hpending hpending'
    -- both are the one that is shared
    have hshared := h.ledger.shared release entry hentry (by rw [hpending]; trivial)
    have hshared' := h.ledger.shared other entry' hentry' (by rw [hpending']; trivial)
    rw [hshared] at hshared'
    exact Option.some.inj hshared'
  · intro hne hnone
    have hlease := h.ledger.kept hne hnone
    exact ⟨hlease, h.live hlease⟩
  · intro hfailed throws b' hwaits hstep
    obtain rfl := Option.some.inj hstep
    exact waits_callShutdown (h.live (hkept hfailed)) hwaits
  · intro hfailed action b' hgets hstep
    exact releases_of_getsToRelease hgets (hkept hfailed) (hidle hfailed) hstep

/-- In the runs in which no turn gets to `releaseOnce()` while a successful release is unnoticed, a lease is released
once; and the first such turn releases it again. -/
theorem released_once_unless_unnoticed {b : Broker} (h : Reaches step ReleasesNoticed initial b) :
    b.ReleasedOnce ∧
    ∀ action b', ¬ ReleasesNoticed b action → b.step action = some b' → ¬ b'.ReleasedOnce := by
  have hinv := onceInvariant_reached h
  constructor
  · exact hinv.releasedOnce
  · intro action b' hunnoticed hstep hreleased
    obtain ⟨hgets, hlease, entry, hmem, hfinalized⟩ := Classical.not_not.mp hunnoticed
    obtain ⟨release, hentry⟩ := List.getElem?_of_mem hmem
    have hsuccess : entry.phase ≠ .finalized false := by
      rw [hfinalized]
      exact fun heq => Bool.noConfusion (ReleasePhase.finalized.inj heq)
    have hlast := hinv.ledger.last release entry hentry hsuccess
    have hlt : release < b.releases.length := (List.getElem?_eq_some_iff.mp hentry).1
    -- the last release is not open, so none is
    have hnone : b.releasePromise = none := by
      cases hpromise : b.releasePromise with
      | none => rfl
      | some other =>
          obtain ⟨entry', hentry', hopen⟩ := hinv.ledger.opened other hpromise
          have hsame : other + 1 = b.releases.length := by
            apply hinv.ledger.last other entry' hentry'
            intro hfailed
            rw [hfailed] at hopen
            exact hopen
          obtain rfl : other = release := by omega
          rw [hentry] at hentry'
          obtain rfl := Option.some.inj hentry'
          rw [hfinalized] at hopen
          exact hopen.elim
    obtain ⟨added, hreleases⟩ := releases_of_getsToRelease hgets hlease hnone hstep
    have hagain : release + 1 = b'.releases.length := by
      apply hreleased.once release entry
      · rw [hreleases, List.getElem?_append_left hlt]
        exact hentry
      · exact .inr hfinalized
    rw [hreleases, List.length_append, List.length_singleton] at hagain
    omega

end Invariant

/-! ## Runs -/

/-- The watchdog's `shutdown()` has stopped the runtime and waits for the release. -/
def sampleReleasing : List BrokerAction :=
  [.start, .acquired (.lease false) false, .runtime (.connectSettles true), .runtimeStarted false,
    .leaseExpires false, .runtime (.startAwaited 0), .runtime (.drainSettles (.round 0) .stopped),
    .runtime (.disconnectSettles (.round 0) true), .runtime (.adapterReturns (.round 0)), .runtime .shutdownFinally,
    .runtimeResumes 0 false]

/-- The release fails, and the next `shutdown()` succeeds with it. -/
def sampleRetried : List BrokerAction :=
  sampleReleasing ++
    [.releaseSettles 0 false, .releaseFinally 0, .shutdownReleased 0, .shutdown false, .runtimeResumes 1 false,
      .releaseSettles 1 true, .releaseFinally 1, .shutdownReleased 1]

/-- The release succeeds, and another `shutdown()` gets to `releaseOnce()` before the first one has resumed. -/
def sampleOvertaken : List BrokerAction :=
  sampleReleasing ++ [.releaseSettles 0 true, .releaseFinally 0, .shutdown false, .runtimeResumes 1 false]

theorem released_once_unless_unnoticed_retried :
    (final step initial sampleRetried).ReleasedOnce ∧ (final step initial sampleRetried).releases.length = 2 ∧
      (final step initial sampleRetried).state = .stopped := by
  have hends : (execute step initial sampleRetried).isSome = true ∧
      checked step (fun b action => decide (b.ReleasesNoticed action)) initial sampleRetried = true ∧
      (final step initial sampleRetried).releases.length = 2 ∧
      (final step initial sampleRetried).state = .stopped := by
    decide +kernel
  constructor
  · have hreached : Reaches step ReleasesNoticed initial (final step initial sampleRetried) :=
      .of_checked (fun _ _ _ hnoticed => of_decide_eq_true hnoticed) hends.2.1 (execute_final hends.1)
    exact (released_once_unless_unnoticed hreached).1
  · exact hends.2.2

/-- `releaseTenantLease` is called for a lease that it has released. -/
theorem lease_released_twice : ¬ ∀ b, Reaches step Always initial b → b.ReleasedOnce := by
  intro hall
  have hends : (execute step initial sampleOvertaken).isSome = true ∧
      (final step initial sampleOvertaken).releases.length = 2 ∧
      (final step initial sampleOvertaken).releases[0]?.map Release.phase = some (.finalized true) := by
    decide +kernel
  obtain ⟨hrun, hlength, hphase⟩ := hends
  have hreleased := hall _ (.of_execute (execute_final hrun))
  obtain ⟨entry, hentry, hfinalized⟩ := Option.map_eq_some_iff.mp hphase
  have hlast := hreleased.once 0 entry hentry (.inr hfinalized)
  omega

end Broker

end Connector
end VoiceAssistants
