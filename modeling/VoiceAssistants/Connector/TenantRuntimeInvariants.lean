import Mathlib.Tactic.SplitIfs
import VoiceAssistants.Collections.Slots
import VoiceAssistants.Connector.TenantRuntime

/-!
# A runtime that has reported stopped

`RuntimeInvariant` holds in every run of a tenant runtime: at most one adapter shutdown is under way, and a runtime
that has reported `stopped` (its state is `stopped`, or `failed` after a clean-up that was complete) has drained its
calls, removed its listeners and disconnected its client.  `Reported` is final.
-/

namespace VoiceAssistants
namespace Connector

open Async
open Collections (getElem?_concat_cases)

/-- The promise of a round is pending. -/
def RoundPhase.Unsettled (phase : RoundPhase) : Prop :=
  ∀ result, phase ≠ .settled result

namespace TenantRuntime

/-- The runtime has reported `{ stopped: true }`, or its failed start has cleaned up completely. -/
def Reported (r : TenantRuntime) : Prop :=
  r.state = .stopped ∨ r.state = .failed

/-- The calls are drained and the adapter no longer listens. -/
def Quiet (r : TenantRuntime) : Prop :=
  r.drained = true ∧ r.listening = false

/-- What holds of a runtime in every run. -/
structure RuntimeInvariant (r : TenantRuntime) : Prop where
  idle : r.state = .idle → r.start = .notCalled ∧
    ∀ (n : Nat) (phase : RoundPhase), r.rounds[n]? = some phase → phase = .awaitingStart
  connects : r.connects = if r.start = .notCalled then 0 else 1
  starting : r.start ≠ .notCalled → r.startSettled = false → r.state = .starting
  draining : ∀ (n : Nat) (adapter : AdapterShutdown), r.rounds[n]? = some (.adapter adapter) →
    r.state = .draining ∧ (r.start = .notCalled ∨ r.startSettled = true)
  promise : ∀ (n : Nat) (phase : RoundPhase), r.rounds[n]? = some phase → phase.Unsettled →
    r.shutdownPromise = some n ∧ r.state ≠ .stopped
  settled : ∀ n : Nat, r.rounds[n]? = some (.settled (some true)) → r.Reported
  disconnecting : ∀ owner, r.adapterOf owner = some .disconnecting → r.Quiet
  returned : ∀ owner, r.adapterOf owner = some (.returned true) → r.Quiet ∧ r.disconnected = true
  reported : r.Reported → r.Quiet ∧ r.disconnected = true

section Invariant

variable {r r' : TenantRuntime} {owner owner' : Owner} {adapter : AdapterShutdown} {action : RuntimeAction}

theorem runtimeInvariant_initial : RuntimeInvariant initial where
  idle := by simp [initial]
  connects := rfl
  starting := fun h => absurd rfl h
  draining := by simp [initial]
  promise := by simp [initial]
  settled := by simp [initial]
  disconnecting := by
    intro owner h
    cases owner <;> simp [adapterOf, initial] at h
  returned := by
    intro owner h
    cases owner <;> simp [adapterOf, initial] at h
  reported := by simp [Reported, initial]

theorem adapterOf_start : r.adapterOf .start = some adapter ↔ r.start = .cleaning adapter := by
  unfold adapterOf
  cases r.start <;> simp

theorem adapterOf_round {n : Nat} : r.adapterOf (.round n) = some adapter ↔ r.rounds[n]? = some (.adapter adapter) := by
  unfold adapterOf
  cases hround : r.rounds[n]? with
  | none => simp [hround]
  | some phase => cases phase <;> simp [hround]

/-- While an adapter shutdown is under way, the runtime is starting or draining. -/
theorem RuntimeInvariant.adapter_state (h : r.RuntimeInvariant) (hadapter : r.adapterOf owner = some adapter) :
    r.state = .starting ∨ r.state = .draining := by
  cases owner with
  | start =>
      have hstart := adapterOf_start.mp hadapter
      exact .inl (h.starting (by simp [hstart]) (by simp [startSettled, hstart]))
  | round n => exact .inr (h.draining n adapter (adapterOf_round.mp hadapter)).1

theorem RuntimeInvariant.not_reported (h : r.RuntimeInvariant) (hadapter : r.adapterOf owner = some adapter) :
    ¬ r.Reported := by
  rcases h.adapter_state hadapter with hstate | hstate <;> simp [Reported, hstate]

/-- There is one adapter shutdown at a time. -/
theorem RuntimeInvariant.one_adapter (h : r.RuntimeInvariant) {adapter' : AdapterShutdown}
    (hadapter : r.adapterOf owner = some adapter) (hadapter' : r.adapterOf owner' = some adapter') :
    owner = owner' := by
  have hboth {n : Nat} {a a' : AdapterShutdown} (hs : r.adapterOf .start = some a)
      (hn : r.adapterOf (.round n) = some a') : False := by
    have hstart := adapterOf_start.mp hs
    rcases (h.draining n a' (adapterOf_round.mp hn)).2 with hnot | hsettled
    · rw [hstart] at hnot
      cases hnot
    · simp [startSettled, hstart] at hsettled
  cases owner with
  | start =>
      cases owner' with
      | start => rfl
      | round n => exact (hboth hadapter hadapter').elim
  | round n =>
      cases owner' with
      | start => exact (hboth hadapter' hadapter).elim
      | round m =>
          have hn := h.promise n _ (adapterOf_round.mp hadapter) (fun result => by simp)
          have hm := h.promise m _ (adapterOf_round.mp hadapter') (fun result => by simp)
          rw [hn.1] at hm
          rw [Option.some.inj hm.1]

theorem adapterOf_setAdapter_self {old : AdapterShutdown} (h : r.adapterOf owner = some old) :
    (r.setAdapter owner adapter).adapterOf owner = some adapter := by
  cases owner with
  | start => rfl
  | round n =>
      have hlt : n < r.rounds.length := (List.getElem?_eq_some_iff.mp (adapterOf_round.mp h)).1
      rw [adapterOf_round]
      simp [setAdapter, hlt]

theorem adapterOf_setAdapter_ne (h : owner' ≠ owner) :
    (r.setAdapter owner adapter).adapterOf owner' = r.adapterOf owner' := by
  cases owner with
  | start =>
      cases owner' with
      | start => exact absurd rfl h
      | round n => rfl
  | round n =>
      cases owner' with
      | start => rfl
      | round m =>
          have hne : n ≠ m := fun heq => h (by rw [heq])
          simp [adapterOf, setAdapter, hne]

/-- A round after it has been replaced. -/
theorem round_set {n m : Nat} {phase phase' : RoundPhase} (h : (r.rounds.set n phase)[m]? = some phase') :
    (m = n ∧ phase' = phase) ∨ (m ≠ n ∧ r.rounds[m]? = some phase') := by
  by_cases hmn : m = n
  · subst hmn
    have hlt : m < (r.rounds.set m phase).length := (List.getElem?_eq_some_iff.mp h).1
    rw [List.length_set] at hlt
    rw [List.getElem?_set_self hlt] at h
    exact .inl ⟨rfl, (Option.some.inj h).symm⟩
  · rw [List.getElem?_set_ne (fun heq => hmn heq.symm)] at h
    exact .inr ⟨hmn, h⟩

/-- The adapter shutdown that is under way moves on, and with it what the adapter and the client have done. -/
theorem RuntimeInvariant.moves (h : r.RuntimeInvariant) {old : AdapterShutdown} {listening drained disconnected : Bool}
    (hold : r.adapterOf owner = some old)
    (hdisconnecting : adapter = .disconnecting → drained = true ∧ listening = false)
    (hreturned : adapter = .returned true → (drained = true ∧ listening = false) ∧ disconnected = true) :
    RuntimeInvariant ({ r with
      listening := listening, drained := drained, disconnected := disconnected }.setAdapter owner adapter) := by
  have hactive := h.adapter_state hold
  have hidle : r.state ≠ .idle := by
    rcases hactive with heq | heq <;> simp [heq]
  -- whoever has an adapter shutdown afterwards is the owner
  have howner {other : Owner} {a : AdapterShutdown}
      (ha : ({ r with listening := listening, drained := drained, disconnected := disconnected }.setAdapter owner
        adapter).adapterOf other = some a) : other = owner ∧ a = adapter := by
    by_cases heq : other = owner
    · subst heq
      rw [adapterOf_setAdapter_self (r := { r with
        listening := listening, drained := drained, disconnected := disconnected }) hold] at ha
      exact ⟨rfl, (Option.some.inj ha).symm⟩
    · rw [adapterOf_setAdapter_ne heq] at ha
      exact absurd (h.one_adapter ha hold) heq
  cases owner with
  | start =>
      have hstart := adapterOf_start.mp hold
      constructor
      · exact fun hstate => absurd hstate hidle
      · have hconnects := h.connects
        rw [hstart] at hconnects
        exact hconnects
      · intro _ _
        exact h.starting (by simp [hstart]) (by simp [startSettled, hstart])
      · intro n a hround
        have heq := h.one_adapter (adapterOf_round.mpr hround) hold
        cases heq
      · exact h.promise
      · exact h.settled
      · intro other hother
        exact hdisconnecting (howner hother).2.symm
      · intro other hother
        exact hreturned (howner hother).2.symm
      · exact fun hreported => absurd hreported (h.not_reported hold)
  | round n =>
      have hround := adapterOf_round.mp hold
      constructor
      · exact fun hstate => absurd hstate hidle
      · exact h.connects
      · exact h.starting
      · intro m a hm
        rcases round_set hm with ⟨rfl, -⟩ | ⟨-, hm⟩
        · exact h.draining m old hround
        · exact h.draining m a hm
      · intro m phase hm hunsettled
        rcases round_set hm with ⟨rfl, -⟩ | ⟨-, hm⟩
        · exact h.promise m _ hround (fun result => by simp)
        · exact h.promise m phase hm hunsettled
      · intro m hm
        rcases round_set hm with ⟨-, heq⟩ | ⟨-, hm⟩
        · cases heq
        · exact h.settled m hm
      · intro other hother
        exact hdisconnecting (howner hother).2.symm
      · intro other hother
        exact hreturned (howner hother).2.symm
      · exact fun hreported => absurd hreported (h.not_reported hold)

/-- Without a clean-up of the start and without a round at work there is no adapter shutdown. -/
theorem no_adapter (hstart : ∀ a, r.start ≠ .cleaning a) (hrounds : ∀ (n : Nat) a, r.rounds[n]? ≠ some (.adapter a)) :
    r.adapterOf owner ≠ some adapter := by
  intro h
  cases owner with
  | start => exact hstart adapter (adapterOf_start.mp h)
  | round n => exact hrounds n adapter (adapterOf_round.mp h)

theorem RuntimeInvariant.callStart (h : r.RuntimeInvariant) : r.callStart.RuntimeInvariant := by
  unfold TenantRuntime.callStart
  split_ifs with hidle
  · obtain ⟨hstart, hrounds⟩ := h.idle hidle
    have hno (n : Nat) (a : AdapterShutdown) : r.rounds[n]? ≠ some (.adapter a) := by
      intro hround
      cases hrounds n _ hround
    constructor
    · exact fun hstate => RuntimeState.noConfusion hstate
    · have hconnects := h.connects
      rw [hstart] at hconnects
      simp [hconnects]
    · exact fun _ _ => rfl
    · exact fun n a hround => absurd hround (hno n a)
    · exact fun n phase hround hunsettled => ⟨(h.promise n phase hround hunsettled).1, RuntimeState.noConfusion⟩
    · intro n hround
      cases hrounds n _ hround
    · exact fun owner howner => absurd howner (no_adapter (fun a => StartPhase.noConfusion) hno)
    · exact fun owner howner => absurd howner (no_adapter (fun a => StartPhase.noConfusion) hno)
    · rintro (hstate | hstate) <;> cases hstate
  · exact h

/-- A round that no longer waits for the start. -/
theorem RuntimeInvariant.runRound (h : r.RuntimeInvariant) {n : Nat} (hround : r.rounds[n]? = some .awaitingStart)
    (hstart : r.start = .notCalled ∨ r.startSettled = true) : (r.runRound n).RuntimeInvariant := by
  have hpromise := h.promise n _ hround (fun result => by simp)
  have hno (a : AdapterShutdown) : r.start ≠ .cleaning a := by
    intro hcleaning
    rcases hstart with heq | hsettled
    · rw [hcleaning] at heq
      cases heq
    · simp [startSettled, hcleaning] at hsettled
  unfold TenantRuntime.runRound
  split_ifs with hfailed
  · constructor
    · intro hidle
      rw [show r.state = .idle from hidle] at hfailed
      cases hfailed
    · exact h.connects
    · exact h.starting
    · intro m a hm
      rcases round_set hm with ⟨-, heq⟩ | ⟨-, hm⟩
      · cases heq
      · exact h.draining m a hm
    · intro m phase hm hunsettled
      rcases round_set hm with ⟨-, rfl⟩ | ⟨-, hm⟩
      · exact absurd rfl (hunsettled _)
      · exact h.promise m phase hm hunsettled
    · exact fun _ _ => .inr hfailed
    · intro owner howner
      have hold : r.adapterOf owner = some .disconnecting := by
        cases owner with
        | start => exact adapterOf_start.mpr (adapterOf_start.mp howner)
        | round m =>
            rcases round_set (adapterOf_round.mp howner) with ⟨-, heq⟩ | ⟨-, hm⟩
            · cases heq
            · exact adapterOf_round.mpr hm
      exact absurd (.inr hfailed) (h.not_reported hold)
    · intro owner howner
      have hold : r.adapterOf owner = some (.returned true) := by
        cases owner with
        | start => exact adapterOf_start.mpr (adapterOf_start.mp howner)
        | round m =>
            rcases round_set (adapterOf_round.mp howner) with ⟨-, heq⟩ | ⟨-, hm⟩
            · cases heq
            · exact adapterOf_round.mpr hm
      exact absurd (.inr hfailed) (h.not_reported hold)
    · exact h.reported
  · -- the round begins its adapter shutdown; no other round is pending
    have hother {m : Nat} {phase : RoundPhase} (hm : r.rounds[m]? = some phase) (hunsettled : phase.Unsettled) :
        m = n := by
      have heq := (h.promise m phase hm hunsettled).1
      rw [hpromise.1] at heq
      exact (Option.some.inj heq).symm
    have hadapter {owner : Owner} {a : AdapterShutdown}
        (howner : (({ r with state := .draining } : TenantRuntime).beginAdapter (.round n)).adapterOf owner = some a) :
        a = .drainingCalls r.drains := by
      cases owner with
      | start => exact absurd (adapterOf_start.mp howner) (hno a)
      | round m =>
          rcases round_set (adapterOf_round.mp howner) with ⟨-, heq⟩ | ⟨hne, hm⟩
          · cases heq
            rfl
          · exact absurd (hother hm (fun result => by simp)) hne
    constructor
    · exact fun hidle => RuntimeState.noConfusion hidle
    · exact h.connects
    · intro hcalled hsettled
      rcases hstart with heq | heq
      · exact absurd heq hcalled
      · exact absurd (heq.symm.trans hsettled) (by simp)
    · exact fun m a hm => ⟨rfl, hstart⟩
    · intro m phase hm hunsettled
      rcases round_set hm with ⟨rfl, -⟩ | ⟨-, hm⟩
      · exact ⟨hpromise.1, RuntimeState.noConfusion⟩
      · exact ⟨(h.promise m phase hm hunsettled).1, RuntimeState.noConfusion⟩
    · intro m hm
      rcases round_set hm with ⟨-, heq⟩ | ⟨-, hm⟩
      · cases heq
      · rcases h.settled m hm with hstopped | hfailed'
        · exact absurd hstopped hpromise.2
        · exact absurd hfailed' hfailed
    · intro owner howner
      cases hadapter howner
    · intro owner howner
      cases hadapter howner
    · rintro (hstate | hstate) <;> cases hstate

/-- The promise of `start()` settles, and the state and the result with it. -/
theorem RuntimeInvariant.settleStart (h : r.RuntimeInvariant) {started : Bool} {state : RuntimeState}
    {result : Option Bool} (hcalled : r.start ≠ .notCalled) (hpending : r.startSettled = false)
    (hidle : state ≠ .idle) (hstopped : state ≠ .stopped) (hfailed : state = .failed → r.Quiet ∧ r.disconnected = true) :
    RuntimeInvariant { r with start := .settled started, state := state, lastShutdown := result } := by
  have hstarting := h.starting hcalled hpending
  have hno (n : Nat) (a : AdapterShutdown) : r.rounds[n]? ≠ some (.adapter a) := by
    intro hround
    rw [(h.draining n a hround).1] at hstarting
    cases hstarting
  have hadapter {owner : Owner} {a : AdapterShutdown}
      (howner : ({ r with start := .settled started, state := state, lastShutdown := result } : TenantRuntime).adapterOf
        owner = some a) : False := by
    refine no_adapter ?_ ?_ howner
    · exact fun _ => StartPhase.noConfusion
    · exact hno
  constructor
  · exact fun hstate => absurd hstate hidle
  · have hconnects := h.connects
    rw [if_neg hcalled] at hconnects
    simp [hconnects]
  · intro _ hunsettled
    cases hunsettled
  · exact fun n a hround => absurd hround (hno n a)
  · exact fun n phase hround hunsettled => ⟨(h.promise n phase hround hunsettled).1, hstopped⟩
  · intro n hround
    rcases h.settled n hround with hstate | hstate <;> rw [hstate] at hstarting <;> cases hstarting
  · exact fun owner howner => (hadapter howner).elim
  · exact fun owner howner => (hadapter howner).elim
  · rintro (hstate | hstate)
    · exact absurd hstate hstopped
    · exact hfailed hstate

/-- The promise of a round settles. -/
theorem RuntimeInvariant.settleRound (h : r.RuntimeInvariant) {n : Nat} {state : RuntimeState}
    {result last : Option Bool} (hround : r.rounds[n]? = some (.adapter adapter)) (hidle : state ≠ .idle)
    (hfailed : state ≠ .failed) (hstopped : state = .stopped → r.Quiet ∧ r.disconnected = true)
    (hresult : result = some true → state = .stopped) :
    RuntimeInvariant { r with rounds := r.rounds.set n (.settled result), state := state, lastShutdown := last } := by
  have hpromise := h.promise n _ hround (fun result => by simp)
  have hdraining := h.draining n _ hround
  -- no other round is pending
  have hother {m : Nat} {phase : RoundPhase} (hm : (r.rounds.set n (.settled result))[m]? = some phase) :
      ¬ phase.Unsettled := by
    intro hunsettled
    rcases round_set hm with ⟨-, rfl⟩ | ⟨hne, hm⟩
    · exact hunsettled result rfl
    · have heq := (h.promise m phase hm hunsettled).1
      rw [hpromise.1] at heq
      exact hne (Option.some.inj heq).symm
  have hadapter {owner : Owner} {a : AdapterShutdown}
      (howner : ({ r with rounds := r.rounds.set n (.settled result), state := state, lastShutdown := last } :
        TenantRuntime).adapterOf owner = some a) : False := by
    refine no_adapter (fun a hcleaning => ?_) (fun m a hm => hother hm fun result => by simp) howner
    rcases hdraining.2 with heq | heq
    · rw [show r.start = .cleaning a from hcleaning] at heq
      cases heq
    · simp [startSettled, show r.start = .cleaning a from hcleaning] at heq
  constructor
  · exact fun hstate => absurd hstate hidle
  · exact h.connects
  · intro hcalled hpending
    rcases hdraining.2 with heq | heq
    · exact absurd heq hcalled
    · exact absurd (heq.symm.trans hpending) (by simp)
  · exact fun m a hm => absurd (fun result => by simp) (hother hm)
  · exact fun m phase hm hunsettled => absurd hunsettled (hother hm)
  · intro m hm
    rcases round_set hm with ⟨-, heq⟩ | ⟨-, hm⟩
    · cases heq
      exact .inl (hresult rfl)
    · rcases h.settled m hm with hstate | hstate <;> rw [hdraining.1] at hstate <;> cases hstate
  · exact fun owner howner => (hadapter howner).elim
  · exact fun owner howner => (hadapter howner).elim
  · rintro (hstate | hstate)
    · exact hstopped hstate
    · exact absurd hstate hfailed

/-- A new round waits for the start. -/
theorem RuntimeInvariant.addRound (h : r.RuntimeInvariant) (hpromise : r.shutdownPromise = none)
    (hstopped : r.state ≠ .stopped) :
    RuntimeInvariant { r with
      rounds := r.rounds ++ [.awaitingStart], shutdownPromise := some r.rounds.length } := by
  have hget {n : Nat} {phase : RoundPhase} (hn : (r.rounds ++ [.awaitingStart])[n]? = some phase) :
      r.rounds[n]? = some phase ∨ (n = r.rounds.length ∧ phase = .awaitingStart) := by
    exact getElem?_concat_cases hn
  have hadapter {owner : Owner} {a : AdapterShutdown}
      (howner : ({ r with rounds := r.rounds ++ [.awaitingStart], shutdownPromise := some r.rounds.length } :
        TenantRuntime).adapterOf owner = some a) : r.adapterOf owner = some a := by
    cases owner with
    | start => exact adapterOf_start.mpr (adapterOf_start.mp howner)
    | round n =>
        rcases hget (adapterOf_round.mp howner) with hn | ⟨-, heq⟩
        · exact adapterOf_round.mpr hn
        · cases heq
  constructor
  · intro hidle
    obtain ⟨hstart, hrounds⟩ := h.idle hidle
    constructor
    · exact hstart
    · intro n phase hn
      rcases hget hn with hn | ⟨-, heq⟩
      · exact hrounds n phase hn
      · exact heq
  · exact h.connects
  · exact h.starting
  · intro n a hn
    rcases hget hn with hn | ⟨-, heq⟩
    · exact h.draining n a hn
    · cases heq
  · intro n phase hn hunsettled
    rcases hget hn with hn | ⟨rfl, -⟩
    · rw [(h.promise n phase hn hunsettled).1] at hpromise
      cases hpromise
    · exact ⟨rfl, hstopped⟩
  · intro n hn
    rcases hget hn with hn | ⟨-, heq⟩
    · exact h.settled n hn
    · cases heq
  · exact fun owner howner => h.disconnecting owner (hadapter howner)
  · exact fun owner howner => h.returned owner (hadapter howner)
  · exact h.reported

theorem RuntimeInvariant.callShutdown (h : r.RuntimeInvariant) : r.callShutdown.1.RuntimeInvariant := by
  unfold TenantRuntime.callShutdown
  cases hpromise : r.shutdownPromise with
  | some n => exact h
  | none =>
      dsimp only
      split_ifs with hstopped hstart
      · exact h
      · apply (h.addRound hpromise hstopped).runRound
        · simp
        · exact .inl hstart
      · exact h.addRound hpromise hstopped

/-- A failed connection begins the clean-up of the start. -/
theorem RuntimeInvariant.beginCleanup (h : r.RuntimeInvariant) (hstart : r.start = .connecting) :
    (r.beginAdapter .start).RuntimeInvariant := by
  have hstarting := h.starting (by simp [hstart]) (by simp [startSettled, hstart])
  have hno (n : Nat) (a : AdapterShutdown) : r.rounds[n]? ≠ some (.adapter a) := by
    intro hround
    rw [(h.draining n a hround).1] at hstarting
    cases hstarting
  have hadapter {owner : Owner} {a : AdapterShutdown} (howner : (r.beginAdapter .start).adapterOf owner = some a) :
      a = .drainingCalls r.drains := by
    cases owner with
    | start => exact (StartPhase.cleaning.inj (adapterOf_start.mp howner)).symm
    | round n => exact absurd (adapterOf_round.mp howner) (hno n a)
  constructor
  · intro hidle
    rw [show r.state = .idle from hidle] at hstarting
    cases hstarting
  · have hconnects := h.connects
    rw [hstart] at hconnects
    exact hconnects
  · exact fun _ _ => hstarting
  · exact fun n a hround => absurd hround (hno n a)
  · exact h.promise
  · exact h.settled
  · intro owner howner
    cases hadapter howner
  · intro owner howner
    cases hadapter howner
  · exact h.reported

theorem RuntimeInvariant.shutdownFinally (h : r.RuntimeInvariant) (hsettled : r.promiseSettled = true) :
    RuntimeInvariant { r with shutdownPromise := none } := by
  constructor
  · exact h.idle
  · exact h.connects
  · exact h.starting
  · exact h.draining
  · intro n phase hround hunsettled
    have hpromise := (h.promise n phase hround hunsettled).1
    simp only [promiseSettled, hpromise, show r.rounds[n]? = some phase from hround] at hsettled
    cases phase with
    | settled result => exact absurd rfl (hunsettled result)
    | awaitingStart => cases hsettled
    | adapter a => cases hsettled
  · exact h.settled
  · exact h.disconnecting
  · exact h.returned
  · exact h.reported

theorem RuntimeInvariant.drainSettles (h : r.RuntimeInvariant) (hadapter : r.adapterOf owner = some adapter)
    (outcome : DrainOutcome) : (r.drainSettles owner outcome).RuntimeInvariant := by
  cases outcome with
  | stopped =>
      apply h.moves hadapter
      · exact fun _ => ⟨rfl, rfl⟩
      · exact fun heq => AdapterShutdown.noConfusion heq
  | incomplete =>
      apply h.moves hadapter
      · exact fun heq => AdapterShutdown.noConfusion heq
      · intro heq
        cases heq
  | raised =>
      apply h.moves hadapter
      · exact fun heq => AdapterShutdown.noConfusion heq
      · exact fun heq => AdapterShutdown.noConfusion heq

theorem RuntimeInvariant.disconnectSettles (h : r.RuntimeInvariant) (hadapter : r.adapterOf owner = some .disconnecting)
    (resolved : Bool) : (r.disconnectSettles owner resolved).RuntimeInvariant := by
  obtain ⟨hdrained, hlistening⟩ := h.disconnecting owner hadapter
  apply h.moves hadapter
  · exact fun _ => ⟨hdrained, hlistening⟩
  · intro heq
    cases heq
    exact ⟨⟨hdrained, hlistening⟩, by simp⟩

theorem RuntimeInvariant.adapterReturns (h : r.RuntimeInvariant) (hadapter : r.adapterOf owner = some adapter)
    (hstep : r.adapterReturns owner adapter = some r') : r'.RuntimeInvariant := by
  cases owner with
  | start =>
      have hstart := adapterOf_start.mp hadapter
      have hpending : r.startSettled = false := by simp [startSettled, hstart]
      have hstarting := h.starting (by simp [hstart]) hpending
      cases adapter with
      | drainingCalls drain => cases hstep
      | disconnecting => cases hstep
      | returned stopped =>
          obtain rfl := Option.some.inj hstep
          apply h.settleStart (by simp [hstart]) hpending
          · cases stopped <;> simp
          · cases stopped <;> simp
          · intro hstate
            cases stopped with
            | false => cases hstate
            | true => exact h.returned .start hadapter
      | raised =>
          obtain rfl := Option.some.inj hstep
          apply h.settleStart (by simp [hstart]) hpending
          · simp [hstarting]
          · simp [hstarting]
          · intro hstate
            rw [hstarting] at hstate
            cases hstate
  | round n =>
      have hround := adapterOf_round.mp hadapter
      have hdraining := (h.draining n adapter hround).1
      cases adapter with
      | drainingCalls drain => cases hstep
      | disconnecting => cases hstep
      | returned stopped =>
          obtain rfl := Option.some.inj hstep
          apply h.settleRound hround
          · cases stopped <;> simp
          · cases stopped <;> simp
          · intro hstate
            cases stopped with
            | false => cases hstate
            | true => exact h.returned (.round n) hadapter
          · intro hresult
            rw [Option.some.inj hresult]
            rfl
      | raised =>
          obtain rfl := Option.some.inj hstep
          apply h.settleRound hround
          · simp [hdraining]
          · simp [hdraining]
          · intro hstate
            rw [hdraining] at hstate
            cases hstate
          · intro hresult
            cases hresult

/-- What one turn of the event loop can do. -/
inductive Effect (r : TenantRuntime) : RuntimeAction → TenantRuntime → Prop
  | start : Effect r .start r.callStart
  | shutdown : Effect r .shutdown r.callShutdown.1
  | connected (hstart : r.start = .connecting) :
      Effect r (.connectSettles true) { r with start := .settled true, state := .running }
  | connectFailed (hstart : r.start = .connecting) : Effect r (.connectSettles false) (r.beginAdapter .start)
  | startAwaited (n : Nat) (hround : r.rounds[n]? = some .awaitingStart) (hsettled : r.startSettled = true) :
      Effect r (.startAwaited n) (r.runRound n)
  | drainSettles (owner : Owner) (outcome : DrainOutcome) (drain : Nat)
      (hadapter : r.adapterOf owner = some (.drainingCalls drain)) :
      Effect r (.drainSettles owner outcome) (r.drainSettles owner outcome)
  | disconnectSettles (owner : Owner) (resolved : Bool) (hadapter : r.adapterOf owner = some .disconnecting) :
      Effect r (.disconnectSettles owner resolved) (r.disconnectSettles owner resolved)
  | adapterReturns (owner : Owner) (adapter : AdapterShutdown) (r' : TenantRuntime)
      (hadapter : r.adapterOf owner = some adapter) (hreturns : r.adapterReturns owner adapter = some r') :
      Effect r (.adapterReturns owner) r'
  | shutdownFinally (hsettled : r.promiseSettled = true) : Effect r .shutdownFinally { r with shutdownPromise := none }

theorem effect_of_step (h : r.step action = some r') : r.Effect action r' := by
  cases action with
  | start =>
      obtain rfl := Option.some.inj h
      exact .start
  | shutdown =>
      obtain rfl := Option.some.inj h
      exact .shutdown
  | connectSettles resolved =>
      simp only [step] at h
      split_ifs at h with hstart hresolved
      · obtain rfl := Option.some.inj h
        rw [hresolved]
        exact .connected hstart
      · obtain rfl := Option.some.inj h
        rw [eq_false_of_ne_true hresolved]
        exact .connectFailed hstart
  | startAwaited n =>
      simp only [step] at h
      split_ifs at h with hstart
      obtain rfl := Option.some.inj h
      exact .startAwaited n hstart.1 hstart.2
  | drainSettles owner outcome =>
      simp only [step] at h
      split at h
      · rename_i drain hadapter
        obtain rfl := Option.some.inj h
        exact .drainSettles owner outcome drain hadapter
      · cases h
  | disconnectSettles owner resolved =>
      simp only [step] at h
      split at h
      · rename_i hadapter
        obtain rfl := Option.some.inj h
        exact .disconnectSettles owner resolved hadapter
      · cases h
  | adapterReturns owner =>
      simp only [step] at h
      split at h
      · rename_i adapter hadapter
        exact .adapterReturns owner adapter r' hadapter h
      · cases h
  | shutdownFinally =>
      simp only [step] at h
      split_ifs at h with hsettled
      obtain rfl := Option.some.inj h
      exact .shutdownFinally hsettled

/-- One turn of the event loop keeps the invariant. -/
theorem RuntimeInvariant.step (h : r.RuntimeInvariant) (hstep : r.step action = some r') : r'.RuntimeInvariant := by
  cases effect_of_step hstep with
  | start => exact h.callStart
  | shutdown => exact h.callShutdown
  | connected hstart =>
      apply h.settleStart
      · simp [hstart]
      · simp [startSettled, hstart]
      · simp
      · simp
      · exact fun hstate => RuntimeState.noConfusion hstate
  | connectFailed hstart => exact h.beginCleanup hstart
  | startAwaited n hround hsettled => exact h.runRound hround (.inr hsettled)
  | drainSettles owner outcome drain hadapter => exact h.drainSettles hadapter outcome
  | disconnectSettles owner resolved hadapter => exact h.disconnectSettles hadapter resolved
  | adapterReturns owner adapter _ hadapter hreturns => exact h.adapterReturns hadapter hreturns
  | shutdownFinally hsettled => exact h.shutdownFinally hsettled

theorem runtimeInvariant_reached {allowed : TenantRuntime → RuntimeAction → Prop}
    (h : Reaches TenantRuntime.step allowed initial r) : r.RuntimeInvariant :=
  h.invariant runtimeInvariant_initial fun _ _ _ hinv _ hstep => hinv.step hstep

/-- A runtime that has reported stopped keeps having done so. -/
theorem Reported.step (hreported : r.Reported) (h : r.RuntimeInvariant) (hstep : r.step action = some r') :
    r'.Reported := by
  have hadapter {owner : Owner} {a : AdapterShutdown} (howner : r.adapterOf owner = some a) : False :=
    h.not_reported howner hreported
  have hconnecting (hstart : r.start = .connecting) : False := by
    have hstarting := h.starting (by simp [hstart]) (by simp [startSettled, hstart])
    rcases hreported with hstate | hstate <;> rw [hstate] at hstarting <;> cases hstarting
  cases effect_of_step hstep with
  | start =>
      have hidle : r.state ≠ .idle := by
        rcases hreported with hstate | hstate <;> simp [hstate]
      rw [callStart, if_neg hidle]
      exact hreported
  | shutdown =>
      rcases hreported with hstate | hstate
      · left
        unfold callShutdown
        split <;> simp [hstate]
      · right
        unfold callShutdown
        split
        · exact hstate
        · dsimp only
          split_ifs <;> simp [runRound, hstate]
  | connected hstart => exact (hconnecting hstart).elim
  | connectFailed hstart => exact (hconnecting hstart).elim
  | startAwaited n hround hsettled =>
      rcases hreported with hstate | hstate
      · exact absurd hstate (h.promise n _ hround (fun result => by simp)).2
      · right
        simp [runRound, hstate]
  | drainSettles owner outcome drain howner => exact (hadapter howner).elim
  | disconnectSettles owner resolved howner => exact (hadapter howner).elim
  | adapterReturns owner adapter _ howner hreturns => exact (hadapter howner).elim
  | shutdownFinally hsettled => exact hreported

/-! ## A failed start that cleans up completely -/

/-- The clean-up of a failed start, if the action is one of its answers, is complete. -/
def CleanupCompletes : RuntimeAction → Prop
  | .drainSettles .start outcome => outcome = .stopped
  | .disconnectSettles .start resolved => resolved = true
  | _ => True

instance : DecidablePred CleanupCompletes := fun action =>
  match action with
  | .drainSettles .start outcome => inferInstanceAs (Decidable (outcome = .stopped))
  | .disconnectSettles .start resolved => inferInstanceAs (Decidable (resolved = true))
  | .drainSettles (.round _) _ | .disconnectSettles (.round _) _ | .start | .shutdown | .connectSettles _
  | .startAwaited _ | .adapterReturns _ | .shutdownFinally => inferInstanceAs (Decidable True)

/-- A failed start has left the runtime `failed`, or is on the way there. -/
structure CleanStart (r : TenantRuntime) : Prop where
  cleaning : ∀ a, r.start = .cleaning a → a ≠ .raised ∧ a ≠ .returned false
  failed : r.start = .settled false → r.state = .failed

theorem cleanStart_initial : CleanStart initial where
  cleaning := fun _ h => StartPhase.noConfusion h
  failed := fun h => StartPhase.noConfusion h

theorem CleanStart.of_start (h : r.CleanStart) (hstart : r'.start = r.start)
    (hstate : r.state = .failed → r'.state = .failed) : r'.CleanStart where
  cleaning := fun a ha => h.cleaning a (hstart ▸ ha)
  failed := fun hfailed => hstate (h.failed (hstart ▸ hfailed))

theorem CleanStart.runRound (h : r.CleanStart) (n : Nat) : (r.runRound n).CleanStart := by
  apply h.of_start
  · unfold TenantRuntime.runRound
    split_ifs <;> rfl
  · intro hfailed
    rw [TenantRuntime.runRound, if_pos hfailed]
    exact hfailed

theorem CleanStart.callShutdown (h : r.CleanStart) : r.callShutdown.1.CleanStart := by
  unfold TenantRuntime.callShutdown
  cases r.shutdownPromise with
  | some n => exact h
  | none =>
      dsimp only
      split_ifs
      · exact h
      · apply CleanStart.runRound
        exact h.of_start rfl id
      · exact h.of_start rfl id

theorem CleanStart.setAdapter (h : r.CleanStart) (hraised : owner = .start → adapter ≠ .raised ∧ adapter ≠ .returned false) :
    (r.setAdapter owner adapter).CleanStart := by
  cases owner with
  | start =>
      constructor
      · intro a ha
        rw [← StartPhase.cleaning.inj ha]
        exact hraised rfl
      · exact fun hfailed => StartPhase.noConfusion hfailed
  | round n => exact h.of_start rfl id

theorem CleanStart.adapterReturns (h : r.CleanStart) (hinv : r.RuntimeInvariant)
    (hadapter : r.adapterOf owner = some adapter) (hreturns : r.adapterReturns owner adapter = some r') :
    r'.CleanStart := by
  cases owner with
  | start =>
      have hclean := h.cleaning adapter (adapterOf_start.mp hadapter)
      cases adapter with
      | drainingCalls drain => cases hreturns
      | disconnecting => cases hreturns
      | raised => exact absurd rfl hclean.1
      | returned stopped =>
          obtain rfl := Option.some.inj hreturns
          cases stopped with
          | false => exact absurd rfl hclean.2
          | true =>
              constructor
              · exact fun _ ha => StartPhase.noConfusion ha
              · exact fun _ => rfl
  | round n =>
      have hfailed : r.state ≠ .failed := fun hfailed => hinv.not_reported hadapter (.inr hfailed)
      cases adapter with
      | drainingCalls drain => cases hreturns
      | disconnecting => cases hreturns
      | returned stopped =>
          obtain rfl := Option.some.inj hreturns
          exact h.of_start rfl fun heq => absurd heq hfailed
      | raised =>
          obtain rfl := Option.some.inj hreturns
          exact h.of_start rfl id

theorem CleanStart.step (h : r.CleanStart) (hinv : r.RuntimeInvariant) (hcompletes : CleanupCompletes action)
    (hstep : r.step action = some r') : r'.CleanStart := by
  cases effect_of_step hstep with
  | start =>
      unfold TenantRuntime.callStart
      split_ifs with hidle
      · constructor
        · exact fun _ ha => StartPhase.noConfusion ha
        · exact fun hfailed => StartPhase.noConfusion hfailed
      · exact h
  | shutdown => exact h.callShutdown
  | connected hstart =>
      constructor
      · exact fun _ ha => StartPhase.noConfusion ha
      · intro hfailed
        cases hfailed
  | connectFailed hstart =>
      apply CleanStart.of_start (r := r.setAdapter .start (.drainingCalls r.drains))
      · apply h.setAdapter
        simp
      · rfl
      · exact id
  | startAwaited n hround hsettled => exact h.runRound n
  | drainSettles owner outcome drain hadapter =>
      cases outcome with
      | stopped =>
          apply CleanStart.setAdapter
          · exact h.of_start rfl id
          · simp
      | incomplete =>
          apply h.setAdapter
          rintro rfl
          cases hcompletes
      | raised =>
          apply h.setAdapter
          rintro rfl
          cases hcompletes
  | disconnectSettles owner resolved hadapter =>
      apply CleanStart.setAdapter
      · exact h.of_start rfl id
      · rintro rfl
        rw [show resolved = true from hcompletes]
        simp
  | adapterReturns owner adapter _ hadapter hreturns => exact h.adapterReturns hinv hadapter hreturns
  | shutdownFinally hsettled => exact h.of_start rfl id

end Invariant

end TenantRuntime

end Connector
end VoiceAssistants
