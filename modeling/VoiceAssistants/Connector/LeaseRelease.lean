import VoiceAssistants.Collections.Slots
import VoiceAssistants.Connector.TenantRuntimeInvariants
import VoiceAssistants.Connector.BrokerBoundRuntime

/-!
# The tenant lease outlives the runtime

Every call of `releaseTenantLease` finds the runtime that was started with the lease stopped, with its calls
drained, its listeners removed and its client disconnected, or no runtime was started.  This holds in the runs in
which a failed `runtime.start()` has cleaned up completely: the `catch` of the outer `start()` releases the lease
without asking (`leaseReleased_draining`).
-/

namespace VoiceAssistants
namespace Connector

open Async
open Collections (getElem?_concat_cases getElem?_set_cases)

/-- No runtime was started with the lease, or it has reported stopped and nothing of it is left. -/
def TenantFree (inner : Option TenantRuntime) : Prop :=
  ∀ r, inner = some r → r.Reported ∧ r.Quiet ∧ r.disconnected = true

namespace Broker

/-- The answers to a runtime's failed start complete its clean-up. -/
def CleanupCompletes : BrokerAction → Prop
  | .runtime action => TenantRuntime.CleanupCompletes action
  | _ => True

/-- What holds of a lease-bound runtime in the runs whose failed starts clean up completely. -/
structure LeaseInvariant (b : Broker) : Prop where
  runtime : ∀ r, b.inner = some r → r.RuntimeInvariant ∧ r.CleanStart
  acquiring : b.start = .notCalled ∨ b.start = .acquiring → b.inner = none ∧ b.lease = false ∧ b.releases = []
  unused : b.runtime = false → b.lease = true → TenantFree b.inner
  releasing : ∀ release, b.start = .releasing release → TenantFree b.inner
  resolved : ∀ (task : Nat) (stopped : Bool), b.shutdowns[task]? = some (.awaitingRuntime (.resolved stopped)) →
    b.inner ≠ none ∧ TenantFree b.inner
  releases : ∀ release ∈ b.releases, TenantFree release.inner
  freed : b.releases ≠ [] → TenantFree b.inner
  idle : b.state = .idle → b.start = .notCalled

section Invariant

variable {b b' : Broker} {r next : TenantRuntime} {action : BrokerAction} {throws : Bool}

theorem tenantFree_none : TenantFree none :=
  fun _ h => nomatch h

theorem leaseInvariant_initial : LeaseInvariant initial where
  runtime := by simp [initial]
  acquiring := fun _ => ⟨rfl, rfl, rfl⟩
  unused := by simp [initial]
  releasing := by simp [initial]
  resolved := by simp [initial]
  releases := by simp [initial]
  freed := fun h => absurd rfl h
  idle := fun _ => rfl

theorem tenantFree_of_reported (h : r.RuntimeInvariant) (hreported : r.Reported) :
    TenantFree (some r) := by
  intro r' hr'
  obtain rfl := Option.some.inj hr'
  exact ⟨hreported, h.reported hreported⟩

/-- A runtime that is free stays so. -/
theorem tenantFree_step {action : RuntimeAction} (hfree : TenantFree (some r)) (h : r.RuntimeInvariant)
    (hstep : r.step action = some next) : TenantFree (some next) := by
  apply tenantFree_of_reported
  · exact h.step hstep
  · exact (hfree r rfl).1.step h hstep

/-- The state, the shared release promise and the watchdog do not matter. -/
theorem LeaseInvariant.frame (h : b.LeaseInvariant) {state : BrokerState} (releasePromise : Option Nat)
    (watchdog : Bool) (hidle : state = .idle → b.start = .notCalled) :
    LeaseInvariant { b with state := state, releasePromise := releasePromise, watchdog := watchdog } where
  runtime := h.runtime
  acquiring := h.acquiring
  unused := h.unused
  releasing := h.releasing
  resolved := h.resolved
  releases := h.releases
  freed := h.freed
  idle := hidle

theorem LeaseInvariant.not_idle (h : b.LeaseInvariant) (hstart : b.start ≠ .notCalled) : b.state ≠ .idle :=
  fun hidle => hstart (h.idle hidle)

/-- The runtime inside takes a step of its own. -/
theorem LeaseInvariant.runtimeStep {action : RuntimeAction} (h : b.LeaseInvariant) (hinner : b.inner = some r)
    (hcompletes : TenantRuntime.CleanupCompletes action) (hstep : r.step action = some next) :
    LeaseInvariant { b with inner := some next } := by
  obtain ⟨hinv, hclean⟩ := h.runtime r hinner
  have hfree (hfree : TenantFree b.inner) : TenantFree (some next) := by
    rw [hinner] at hfree
    exact tenantFree_step hfree hinv hstep
  constructor
  · intro r' hr'
    obtain rfl := Option.some.inj hr'
    exact ⟨hinv.step hstep, hclean.step hinv hcompletes hstep⟩
  · intro hstart
    have hnone := (h.acquiring hstart).1
    rw [hinner] at hnone
    cases hnone
  · exact fun hruntime hlease => hfree (h.unused hruntime hlease)
  · exact fun release hstart => hfree (h.releasing release hstart)
  · exact fun task stopped htask => ⟨by simp, hfree (h.resolved task stopped htask).2⟩
  · exact h.releases
  · exact fun hreleases => hfree (h.freed hreleases)
  · exact h.idle

/-- One promise of `shutdown()` moves on. -/
theorem LeaseInvariant.setShutdown (h : b.LeaseInvariant) (task : Nat) {phase : BrokerShutdown}
    (hphase : ∀ stopped, phase = .awaitingRuntime (.resolved stopped) → b.inner ≠ none ∧ TenantFree b.inner) :
    (b.setShutdown task phase).LeaseInvariant where
  runtime := h.runtime
  acquiring := h.acquiring
  unused := h.unused
  releasing := h.releasing
  resolved := by
    intro other stopped hother
    rcases getElem?_set_cases hother with ⟨-, heq⟩ | ⟨-, hold⟩
    · exact hphase stopped heq.symm
    · exact h.resolved other stopped hold
  releases := h.releases
  freed := h.freed
  idle := h.idle

/-- A call of `releaseTenantLease` is recorded. -/
theorem LeaseInvariant.addRelease (h : b.LeaseInvariant) (hlease : b.lease = true) (hfree : TenantFree b.inner)
    (phase : ReleasePhase) : LeaseInvariant { b with releases := b.releases ++ [{ inner := b.inner, phase := phase }] } := by
  constructor
  · exact h.runtime
  · intro hstart
    rw [(h.acquiring hstart).2.1] at hlease
    cases hlease
  · exact h.unused
  · exact h.releasing
  · exact h.resolved
  · intro release hrelease
    rcases List.mem_append.mp hrelease with hold | hnew
    · exact h.releases release hold
    · rw [List.mem_singleton.mp hnew]
      exact hfree
  · exact fun _ => hfree
  · exact h.idle

/-- The lease is given back when nothing of its runtime is left. -/
theorem LeaseInvariant.releaseOnce (h : b.LeaseInvariant) (hfree : b.lease = true → TenantFree b.inner) :
    (b.releaseOnce throws).1.LeaseInvariant := by
  unfold Broker.releaseOnce
  by_cases hlease : b.lease = true
  · rw [if_pos hlease]
    cases b.releasePromise with
    | some release => exact h
    | none =>
        cases throws with
        | false => exact (h.addRelease hlease (hfree hlease) .pending).frame _ _ h.idle
        | true => exact (h.addRelease hlease (hfree hlease) (.finalized false)).frame _ _ h.idle
  · rw [if_neg hlease]
    exact h

theorem releaseOnce_keeps : (b.releaseOnce throws).1.inner = b.inner ∧ (b.releaseOnce throws).1.state = b.state := by
  unfold Broker.releaseOnce
  by_cases hlease : b.lease = true
  · rw [if_pos hlease]
    cases b.releasePromise with
    | some release => exact ⟨rfl, rfl⟩
    | none => cases throws <;> exact ⟨rfl, rfl⟩
  · rw [if_neg hlease]
    exact ⟨rfl, rfl⟩

theorem LeaseInvariant.releaseLease (h : b.LeaseInvariant) (task : Nat)
    (hfree : b.lease = true → TenantFree b.inner) : (b.releaseLease task throws).LeaseInvariant := by
  apply (h.releaseOnce hfree).setShutdown
  exact fun _ hphase => BrokerShutdown.noConfusion hphase

theorem LeaseInvariant.runShutdown (h : b.LeaseInvariant) (task : Nat) : (b.runShutdown task throws).LeaseInvariant := by
  have hstopping : LeaseInvariant { b with state := .stopping } := h.frame _ _ fun hidle => BrokerState.noConfusion hidle
  unfold Broker.runShutdown
  split
  · rename_i runtime _ hinner
    obtain ⟨hinv, -⟩ := h.runtime runtime hinner
    have hshutdown : runtime.step .shutdown = some runtime.callShutdown.1 := rfl
    have hcompletes : TenantRuntime.CleanupCompletes .shutdown := trivial
    apply (hstopping.runtimeStep hinner hcompletes hshutdown).setShutdown
    intro stopped hphase
    refine ⟨by simp, ?_⟩
    -- `shutdown()` resolves at once only when the state is `stopped`
    have hreply : runtime.callShutdown.2 = .resolved stopped := BrokerShutdown.awaitingRuntime.inj hphase
    have hstopped : runtime.state = .stopped := by
      unfold TenantRuntime.callShutdown at hreply
      split at hreply
      · cases hreply
      · dsimp only at hreply
        split_ifs at hreply with hstate
        · exact hstate
    apply tenantFree_of_reported
    · exact hinv.step hshutdown
    · exact TenantRuntime.Reported.step (.inl hstopped) hinv hshutdown
  · rename_i hnot
    apply hstopping.releaseLease
    intro hlease
    cases hruntime : b.runtime with
    | false => exact h.unused hruntime hlease
    | true =>
        cases hinner : b.inner with
        | none => exact tenantFree_none
        | some runtime => exact (hnot runtime hruntime hinner).elim

theorem LeaseInvariant.callShutdown (h : b.LeaseInvariant) : (b.callShutdown throws).LeaseInvariant := by
  have hbegun : LeaseInvariant { b with shutdowns := b.shutdowns ++ [.awaitingStart] } := by
    constructor
    · exact h.runtime
    · exact h.acquiring
    · exact h.unused
    · exact h.releasing
    · intro task stopped htask
      rcases getElem?_concat_cases htask with hold | ⟨-, heq⟩
      · exact h.resolved task stopped hold
      · cases heq
    · exact h.releases
    · exact h.freed
    · exact h.idle
  unfold Broker.callShutdown
  split_ifs
  · exact h
  · exact hbegun
  · exact hbegun.runShutdown _

/-- The `catch` of `start()`. -/
theorem LeaseInvariant.startFails (h : b.LeaseInvariant) (hidle : b.state ≠ .idle) (hfree : TenantFree b.inner) :
    (b.startFails throws).LeaseInvariant := by
  have hnext : (b.releaseOnce throws).1.LeaseInvariant := h.releaseOnce fun _ => hfree
  constructor
  · exact hnext.runtime
  · intro hstart
    rcases hstart with heq | heq <;> cases heq
  · exact hnext.unused
  · intro release _
    show TenantFree (b.releaseOnce throws).1.inner
    rw [releaseOnce_keeps.1]
    exact hfree
  · exact hnext.resolved
  · exact hnext.releases
  · exact hnext.freed
  · intro heq
    rw [show (b.startFails throws).state = (b.releaseOnce throws).1.state from rfl, releaseOnce_keeps.2] at heq
    exact absurd heq hidle

theorem LeaseInvariant.acquired (h : b.LeaseInvariant) (hstart : b.start = .acquiring) (outcome : LeaseOutcome) :
    (b.acquired outcome throws).LeaseInvariant := by
  obtain ⟨hinner, hlease, hreleases⟩ := h.acquiring (.inr hstart)
  have hfree : TenantFree b.inner := hinner ▸ tenantFree_none
  have hidle : b.state ≠ .idle := h.not_idle (by simp [hstart])
  -- no promise of `shutdown()` has asked the runtime
  have hresolved {task : Nat} {stopped : Bool} {P : Prop}
      (htask : b.shutdowns[task]? = some (.awaitingRuntime (.resolved stopped))) : P :=
    absurd hinner (h.resolved task stopped htask).1
  cases outcome with
  | raised => exact h.startFails hidle hfree
  | invalid => exact h.startFails hidle hfree
  | lease factoryThrows =>
      cases factoryThrows with
      | true =>
          -- the lease is there, and no runtime: the start stops waiting for the lease as it fails
          have hwaits : LeaseInvariant { b with lease := true, start := .startingRuntime } := by
            constructor
            · exact h.runtime
            · intro heq
              rcases heq with heq | heq <;> cases heq
            · exact fun _ _ => hfree
            · exact fun _ heq => BrokerStart.noConfusion heq
            · exact fun _ _ htask => hresolved htask
            · exact h.releases
            · exact fun _ => hfree
            · exact fun heq => absurd heq hidle
          have hfails : (Broker.startFails _ throws).LeaseInvariant := hwaits.startFails hidle hfree
          have heq : Broker.startFails { b with lease := true, start := .startingRuntime } throws =
              Broker.startFails { b with lease := true } throws := by
            unfold Broker.startFails Broker.releaseOnce
            cases b.releasePromise <;> cases throws <;> rfl
          rw [heq] at hfails
          exact hfails
      | false =>
          constructor
          · intro r hr
            obtain rfl := Option.some.inj hr
            constructor
            · exact TenantRuntime.runtimeInvariant_initial.callStart
            · have hcompletes : TenantRuntime.CleanupCompletes .start := trivial
              exact TenantRuntime.cleanStart_initial.step TenantRuntime.runtimeInvariant_initial hcompletes rfl
          · intro heq
            rcases heq with heq | heq <;> cases heq
          · exact fun hruntime => Bool.noConfusion hruntime
          · exact fun _ heq => BrokerStart.noConfusion heq
          · exact fun _ _ htask => hresolved htask
          · exact h.releases
          · exact fun hne => absurd hreleases hne
          · exact fun heq => absurd heq hidle

theorem LeaseInvariant.runtimeStarted (h : b.LeaseInvariant) {started : Bool} (hstart : b.start = .startingRuntime)
    (hstarted : b.runtimeStart = some started) :
    (b.runtimeStarted started throws).LeaseInvariant := by
  unfold Broker.runtimeStarted
  cases started with
  | true =>
      rw [if_pos rfl]
      constructor
      · exact h.runtime
      · intro heq
        rcases heq with heq | heq <;> cases heq
      · exact h.unused
      · exact fun _ heq => BrokerStart.noConfusion heq
      · exact h.resolved
      · exact h.releases
      · exact h.freed
      · exact fun heq => BrokerState.noConfusion heq
  | false =>
      rw [if_neg Bool.false_ne_true]
      apply h.startFails (h.not_idle (by simp [hstart]))
      -- the runtime's start failed, and its clean-up was complete
      intro r hinner
      obtain ⟨hinv, hclean⟩ := h.runtime r hinner
      have hfailed : r.start = .settled false := by
        unfold Broker.runtimeStart at hstarted
        rw [hinner] at hstarted
        cases hstart : r.start <;> simp [hstart] at hstarted ⊢
        exact hstarted
      exact tenantFree_of_reported hinv (.inr (hclean.failed hfailed)) r rfl

theorem LeaseInvariant.startReleased (h : b.LeaseInvariant) {release : Option Nat} (hstart : b.start = .releasing release)
    (resolved : Bool) : (b.startReleased resolved).LeaseInvariant := by
  have hfree := h.releasing release hstart
  constructor
  · exact h.runtime
  · intro heq
    rcases heq with heq | heq <;> cases heq
  · exact fun _ _ => hfree
  · exact fun _ heq => BrokerStart.noConfusion heq
  · exact h.resolved
  · exact h.releases
  · exact h.freed
  · intro heq
    simp only [Broker.startReleased] at heq
    split_ifs at heq

theorem LeaseInvariant.startAwaited (h : b.LeaseInvariant) (task : Nat) :
    (b.startAwaited task throws).LeaseInvariant := by
  unfold Broker.startAwaited
  split_ifs
  · apply h.setShutdown
    exact fun _ hphase => BrokerShutdown.noConfusion hphase
  · exact h.runShutdown task

/-- `shutdown()` releases the lease only after the runtime has reported stopped. -/
theorem LeaseInvariant.runtimeResumes (h : b.LeaseInvariant) {task : Nat} {reply : ShutdownReply}
    {result : Option Bool} (htask : b.shutdowns[task]? = some (.awaitingRuntime reply))
    (hreplied : b.replied reply = some result) : (b.runtimeResumes task result throws).LeaseInvariant := by
  have hdraining : LeaseInvariant { b with state := .draining } := h.frame _ _ fun hidle => BrokerState.noConfusion hidle
  match result with
  | none =>
      apply hdraining.setShutdown
      exact fun _ hphase => BrokerShutdown.noConfusion hphase
  | some false =>
      apply hdraining.setShutdown
      exact fun _ hphase => BrokerShutdown.noConfusion hphase
  | some true =>
      apply h.releaseLease
      intro _ r hinner
      cases reply with
      | resolved stopped => exact (h.resolved task stopped htask).2 r hinner
      | round n =>
          obtain ⟨hinv, -⟩ := h.runtime r hinner
          have hround : r.rounds[n]? = some (.settled (some true)) := by
            simp only [Broker.replied, hinner] at hreplied
            split at hreplied
            · rename_i settled hround
              split_ifs at hreplied
              rw [hround, Option.some.inj hreplied]
            · cases hreplied
          exact tenantFree_of_reported hinv (hinv.settled n hround) r rfl

theorem LeaseInvariant.shutdownReleased (h : b.LeaseInvariant) (task : Nat) (resolved : Bool) :
    (b.shutdownReleased task resolved).LeaseInvariant := by
  unfold Broker.shutdownReleased
  split_ifs
  · apply LeaseInvariant.setShutdown
    · constructor
      · exact h.runtime
      · intro hstart
        exact ⟨(h.acquiring hstart).1, rfl, (h.acquiring hstart).2.2⟩
      · exact fun _ hlease => Bool.noConfusion hlease
      · exact h.releasing
      · exact h.resolved
      · exact h.releases
      · exact h.freed
      · exact fun heq => BrokerState.noConfusion heq
    · exact fun _ hphase => BrokerShutdown.noConfusion hphase
  · apply LeaseInvariant.setShutdown
    · exact h.frame _ _ fun hidle => BrokerState.noConfusion hidle
    · exact fun _ hphase => BrokerShutdown.noConfusion hphase

theorem LeaseInvariant.setRelease (h : b.LeaseInvariant) {release : Nat} {entry : Release}
    (hentry : b.releases[release]? = some entry) (phase : ReleasePhase) :
    (b.setRelease release entry phase).LeaseInvariant := by
  have hne : b.releases ≠ [] := by
    intro hnil
    simp [hnil] at hentry
  constructor
  · exact h.runtime
  · exact fun hstart => absurd (h.acquiring hstart).2.2 hne
  · exact h.unused
  · exact h.releasing
  · exact h.resolved
  · intro other hother
    rcases List.mem_or_eq_of_mem_set hother with hold | rfl
    · exact h.releases other hold
    · exact h.releases entry (List.mem_of_getElem? hentry)
  · exact fun _ => h.freed hne
  · exact h.idle

theorem LeaseInvariant.step (h : b.LeaseInvariant) (hcompletes : CleanupCompletes action)
    (hstep : b.step action = some b') : b'.LeaseInvariant := by
  cases action with
  | start =>
      obtain rfl := Option.some.inj hstep
      unfold callStart
      split_ifs with hidle
      · have hstart := h.idle hidle
        constructor
        · exact h.runtime
        · exact fun _ => h.acquiring (.inl hstart)
        · exact h.unused
        · exact fun _ heq => BrokerStart.noConfusion heq
        · exact h.resolved
        · exact h.releases
        · exact h.freed
        · exact fun heq => BrokerState.noConfusion heq
      · exact h
  | acquired outcome throws =>
      simp only [step] at hstep
      split_ifs at hstep with hstart
      obtain rfl := Option.some.inj hstep
      exact h.acquired hstart outcome
  | runtime action =>
      simp only [step] at hstep
      split at hstep
      · rename_i runtime hinner
        split at hstep
        · rename_i next hnext
          obtain rfl := Option.some.inj hstep
          exact h.runtimeStep hinner hcompletes hnext
        · cases hstep
      · cases hstep
  | runtimeStarted throws =>
      simp only [step] at hstep
      split_ifs at hstep with hstart
      split at hstep
      · rename_i started hstarted
        obtain rfl := Option.some.inj hstep
        exact h.runtimeStarted hstart hstarted
      · cases hstep
  | startReleased =>
      simp only [step] at hstep
      split at hstep
      · rename_i release hstart
        split at hstep
        · rename_i resolved _
          obtain rfl := Option.some.inj hstep
          exact h.startReleased hstart resolved
        · cases hstep
      · cases hstep
  | shutdown throws =>
      obtain rfl := Option.some.inj hstep
      exact h.callShutdown
  | startAwaited task throws =>
      simp only [step] at hstep
      split at hstep
      · obtain rfl := Option.some.inj hstep
        exact h.startAwaited task
      · cases hstep
  | runtimeResumes task throws =>
      simp only [step] at hstep
      split at hstep
      · rename_i reply htask
        split at hstep
        · rename_i result hreplied
          obtain rfl := Option.some.inj hstep
          exact h.runtimeResumes htask hreplied
        · cases hstep
      · cases hstep
  | shutdownReleased task =>
      simp only [step] at hstep
      split at hstep
      · rename_i release htask
        split at hstep
        · rename_i resolved _
          obtain rfl := Option.some.inj hstep
          exact h.shutdownReleased task resolved
        · cases hstep
      · cases hstep
  | leaseExpires throws =>
      simp only [step] at hstep
      split_ifs at hstep
      · obtain rfl := Option.some.inj hstep
        exact LeaseInvariant.callShutdown (h.frame _ false h.idle)
      · obtain rfl := Option.some.inj hstep
        exact h.frame _ false h.idle
  | releaseSettles release resolved =>
      simp only [step] at hstep
      split at hstep
      · rename_i entry hentry
        split_ifs at hstep
        obtain rfl := Option.some.inj hstep
        exact h.setRelease hentry _
      · cases hstep
  | releaseFinally release =>
      simp only [step] at hstep
      split at hstep
      · rename_i entry hentry
        split at hstep
        · obtain rfl := Option.some.inj hstep
          exact (h.setRelease hentry _).frame _ _ h.idle
        · cases hstep
      · cases hstep

theorem leaseInvariant_reached (h : Reaches Broker.step (fun _ => CleanupCompletes) initial b) : b.LeaseInvariant :=
  h.invariant leaseInvariant_initial fun _ _ _ hinv hcompletes hstep => hinv.step hcompletes hstep

end Invariant

/-- The lease is released only when nothing of the tenant runs here, and nothing does from then on. -/
structure LeaseOutlives (b : Broker) : Prop where
  released : ∀ release ∈ b.releases, TenantFree release.inner
  freed : b.releases ≠ [] → TenantFree b.inner

/-- In the runs in which a failed start of the runtime cleans up completely, the tenant lease outlives the
runtime. -/
theorem lease_outlives_runtime {b : Broker} (h : Reaches step (fun _ => CleanupCompletes) initial b) :
    b.LeaseOutlives := by
  have hinv := leaseInvariant_reached h
  exact ⟨hinv.releases, hinv.freed⟩

/-! ## Runs -/

/-- The state after a list of actions. -/
def after (actions : List BrokerAction) : Broker :=
  (execute step initial actions).getD initial

theorem execute_after {actions : List BrokerAction} (h : (execute step initial actions).isSome = true) :
    execute step initial actions = some (after actions) := by
  obtain ⟨b, hb⟩ := Option.isSome_iff_exists.mp h
  rw [after, hb, Option.getD_some]

/-- An executable form of `CleanupCompletes`. -/
def completes : BrokerAction → Bool
  | .runtime action => decide (TenantRuntime.CleanupCompletes action)
  | _ => true

theorem cleanupCompletes_of_completes {action : BrokerAction} (h : completes action = true) :
    CleanupCompletes action := by
  cases action with
  | runtime action =>
      show TenantRuntime.CleanupCompletes action
      exact of_decide_eq_true h
  | _ => trivial

/-- A runtime is started, its lease expires, and the calls are drained. -/
def sampleExpired : List BrokerAction :=
  [.start, .acquired (.lease false) false, .runtime (.connectSettles true), .runtimeStarted false,
    .leaseExpires false, .runtime (.startAwaited 0), .runtime (.drainSettles (.round 0) .stopped),
    .runtime (.disconnectSettles (.round 0) true), .runtime (.adapterReturns (.round 0)), .runtime .shutdownFinally,
    .runtimeResumes 0 false, .releaseSettles 0 true, .releaseFinally 0, .shutdownReleased 0]

/-- The connection fails while a call cannot be drained. -/
def sampleUndrained : List BrokerAction :=
  [.start, .acquired (.lease false) false, .runtime (.connectSettles false),
    .runtime (.drainSettles .start .incomplete), .runtime (.adapterReturns .start), .runtimeStarted false]

theorem lease_outlives_runtime_expired : (after sampleExpired).LeaseOutlives ∧ (after sampleExpired).releases ≠ [] := by
  have hcompletes : ∀ action ∈ sampleExpired, completes action = true := by
    have hall : sampleExpired.all completes = true := by decide
    exact List.all_eq_true.mp hall
  constructor
  · exact lease_outlives_runtime
      (.of_execute_allowed (fun action hmem _ => cleanupCompletes_of_completes (hcompletes action hmem))
        (execute_after (by decide +kernel)))
  · decide +kernel

/-- The `catch` of `start()` releases the lease of a runtime that is still draining. -/
theorem leaseReleased_draining : ¬ ∀ b, Reaches step Always initial b → b.LeaseOutlives := by
  intro hall
  have hrun : (execute step initial sampleUndrained).isSome = true := by decide +kernel
  have houtlives := hall _ (.of_execute (execute_after hrun))
  have hinner : (after sampleUndrained).inner.map TenantRuntime.state = some .draining := by decide +kernel
  obtain ⟨runtime, hruntime, hstate⟩ := Option.map_eq_some_iff.mp hinner
  have hreported := (houtlives.freed (by decide +kernel) runtime hruntime).1
  rcases hreported with heq | heq <;> rw [hstate] at heq <;> cases heq

end Broker

end Connector
end VoiceAssistants
