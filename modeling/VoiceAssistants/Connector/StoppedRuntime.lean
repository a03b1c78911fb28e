import VoiceAssistants.Connector.EventRouting
import VoiceAssistants.Connector.StoppedController
import VoiceAssistants.Connector.TenantRuntimeInvariants

/-!
# A stopped tenant runtime is stopped (`createThreeCxTenantRuntime`)

The runtime with the adapter and the controller it has made.  Only the adapter's `shutdown()` calls
`controller.shutdown()`, so that the calls of the runtime and the shutdowns of the controller have the same numbers,
and only the runtime starts and stops the adapter.  Everything else that the adapter and the controller do
interleaves with the runtime in any order.
-/

namespace VoiceAssistants
namespace Connector

open Async

structure TenantSystem where
  runtime : TenantRuntime
  routing : Routing

inductive TenantAction
  | runtime (action : RuntimeAction)
  | routing (action : RoutingAction)

/-- How a `controller.shutdown()` has settled. -/
def Controller.drainOutcome (c : Controller) (drain : Nat) : Option DrainOutcome :=
  match c.shutdowns drain with
  | some ⟨.resolved true, _, _⟩ => some .stopped
  | some ⟨.resolved false, _, _⟩ => some .incomplete
  | some ⟨.rejected _, _, _⟩ => some .raised
  | _ => none

/-- What only the runtime does to the adapter and the controller. -/
def RoutingAction.isOwners : RoutingAction → Bool
  | .adapter .start _ | .adapter .stop _ | .controller .shutdown => true
  | _ => false

namespace TenantSystem

/-- `createThreeCxTenantRuntime(…)`. -/
def initial (binding : TenantBinding) : TenantSystem where
  runtime := .initial
  routing := .initial binding

/-- A `controller.shutdown()` settles as it does in the controller. -/
def permits (s : TenantSystem) : RuntimeAction → Bool
  | .drainSettles owner outcome =>
      match s.runtime.adapterOf owner with
      | some (.drainingCalls drain) => s.routing.controller.drainOutcome drain == some outcome
      | _ => false
  | _ => true

/-- `eventAdapter.start()` in `start`, and `this.stop()` in the adapter's `shutdown`. -/
def adapterAfter (s : TenantSystem) : RuntimeAction → EventAdapter
  | .start => if s.runtime.state = .idle then s.routing.adapter.start else s.routing.adapter
  | .drainSettles _ .stopped => s.routing.adapter.stop
  | _ => s.routing.adapter

/-- The turn of the runtime with its calls of the adapter's `start` and `stop` and of `controller.shutdown()`. -/
def carryOut (s : TenantSystem) (action : RuntimeAction) (runtime : TenantRuntime) : TenantSystem where
  runtime := runtime
  routing := { s.routing with
    adapter := s.adapterAfter action
    controller :=
      if runtime.drains = s.runtime.drains then s.routing.controller else s.routing.controller.shutdown }

/-- One turn of the event loop. -/
def step (config : AdapterConfig) (s : TenantSystem) : TenantAction → Option TenantSystem
  | .runtime action => if s.permits action then (s.runtime.step action).map (s.carryOut action) else none
  | .routing action =>
      if action.isOwners then none
      else (s.routing.step config action).map fun routing => { s with routing := routing }

/-- A `shutdown()` has resolved with `stopped`, or would do so at once. -/
def ReportsStopped (s : TenantSystem) : Prop :=
  (∃ n : Nat, s.runtime.rounds[n]? = some (.settled (some true))) ∨ s.runtime.callShutdown.2 = .resolved true

end TenantSystem

/-! ## The runtime by itself -/

namespace TenantRuntime

section Runs

variable {r r' : TenantRuntime} {action : RuntimeAction} {allowed : TenantRuntime → RuntimeAction → Prop}

theorem drained_runRound (n : Nat) : (r.runRound n).drained = r.drained := by
  unfold runRound
  split <;> rfl

/-- What the return of an adapter shutdown leaves alone. -/
theorem adapterReturns_kept {owner : Owner} {adapter : AdapterShutdown} (h : r.adapterReturns owner adapter = some r') :
    r'.drained = r.drained ∧ r'.shutdownPromise = r.shutdownPromise ∧ (r'.state = .idle → r.state = .idle) := by
  unfold TenantRuntime.adapterReturns at h
  split at h
  · rename_i stopped
    obtain rfl := Option.some.inj h
    cases stopped <;> simp
  · obtain rfl := Option.some.inj h
    simp
  · rename_i stopped
    obtain rfl := Option.some.inj h
    cases stopped <;> simp
  · obtain rfl := Option.some.inj h
    simp
  · cases h

/-- The calls count as drained once a `controller.shutdown()` has resolved with `stopped`. -/
theorem drained_of_step (hstep : r.step action = some r') (hdrained : r'.drained = true) :
    r.drained = true ∨ ∃ owner, action = .drainSettles owner .stopped := by
  cases effect_of_step hstep with
  | start =>
      left
      unfold callStart at hdrained
      split at hdrained <;> exact hdrained
  | shutdown =>
      left
      unfold callShutdown at hdrained
      split at hdrained
      · exact hdrained
      · dsimp only at hdrained
        split at hdrained
        · exact hdrained
        · split at hdrained
          · rw [drained_runRound] at hdrained
            exact hdrained
          · exact hdrained
  | connected hstart => exact .inl hdrained
  | connectFailed hstart => exact .inl hdrained
  | startAwaited n hround hsettled =>
      rw [drained_runRound] at hdrained
      exact .inl hdrained
  | drainSettles owner outcome drain hadapter =>
      cases outcome with
      | stopped => exact .inr ⟨owner, rfl⟩
      | incomplete => cases owner <;> exact .inl hdrained
      | raised => cases owner <;> exact .inl hdrained
  | disconnectSettles owner resolved hadapter => cases owner <;> exact .inl hdrained
  | adapterReturns owner adapter _ hadapter hreturns =>
      left
      rw [← (adapterReturns_kept hreturns).1]
      exact hdrained
  | shutdownFinally hsettled => exact .inl hdrained

/-- A runtime that has been shut down before it was started. -/
def NeverStarts (r : TenantRuntime) : Prop :=
  r.start = .notCalled ∧ r.state ≠ .idle

theorem state_runRound (n : Nat) : (r.runRound n).state ≠ .idle := by
  unfold runRound
  split
  · rename_i hfailed
    simp [hfailed]
  · exact RuntimeState.noConfusion

theorem start_runRound (n : Nat) : (r.runRound n).start = r.start := by
  unfold runRound
  split <;> rfl

theorem NeverStarts.step (h : r.NeverStarts) (hstep : r.step action = some r') : r'.NeverStarts := by
  obtain ⟨hstart, hidle⟩ := h
  have hcleaning {a : AdapterShutdown} (ha : r.adapterOf .start = some a) : False := by
    rw [adapterOf_start, hstart] at ha
    cases ha
  cases effect_of_step hstep with
  | start =>
      rw [callStart, if_neg hidle]
      exact ⟨hstart, hidle⟩
  | shutdown =>
      unfold callShutdown
      split
      · exact ⟨hstart, hidle⟩
      · dsimp only
        split
        · exact ⟨hstart, hidle⟩
        · constructor
          · rw [start_runRound]
            exact hstart
          · exact state_runRound _
  | connected hconnecting =>
      rw [hstart] at hconnecting
      cases hconnecting
  | connectFailed hconnecting =>
      rw [hstart] at hconnecting
      cases hconnecting
  | startAwaited n hround hsettled => simp [startSettled, hstart] at hsettled
  | drainSettles owner outcome drain hadapter =>
      cases owner with
      | start => exact (hcleaning hadapter).elim
      | round n => cases outcome <;> exact ⟨hstart, hidle⟩
  | disconnectSettles owner resolved hadapter =>
      cases owner with
      | start => exact (hcleaning hadapter).elim
      | round n => exact ⟨hstart, hidle⟩
  | adapterReturns owner adapter _ hadapter hreturns =>
      cases owner with
      | start => exact (hcleaning hadapter).elim
      | round n =>
          cases adapter with
          | drainingCalls => cases hreturns
          | disconnecting => cases hreturns
          | returned stopped =>
              obtain rfl := Option.some.inj hreturns
              exact ⟨hstart, by cases stopped <;> simp⟩
          | raised =>
              obtain rfl := Option.some.inj hreturns
              exact ⟨hstart, hidle⟩
  | shutdownFinally hsettled => exact ⟨hstart, hidle⟩

/-- An idle runtime has no shutdown under way. -/
theorem idle_reached (h : Reaches TenantRuntime.step allowed initial r) :
    r.state = .idle → r.shutdownPromise = none := by
  apply h.invariant_reached (I := fun r => r.state = .idle → r.shutdownPromise = none)
  · exact fun _ => rfl
  · intro t action u hrun ih _ hstep hidle
    have hinv := runtimeInvariant_reached hrun
    cases effect_of_step hstep with
    | start =>
        unfold callStart at hidle ⊢
        split at hidle
        · cases hidle
        · rename_i hnot
          exact absurd hidle hnot
    | shutdown =>
        unfold callShutdown at hidle ⊢
        split at hidle
        · exact ih hidle
        · dsimp only at hidle ⊢
          split at hidle
          · rename_i hstopped
            rw [hidle] at hstopped
            cases hstopped
          · split at hidle
            · exact absurd hidle (state_runRound _)
            · rename_i hcalled
              exact absurd (hinv.idle hidle).1 hcalled
    | connected hstart => cases hidle
    | connectFailed hstart => exact ih hidle
    | startAwaited n hround hsettled => exact absurd hidle (state_runRound n)
    | drainSettles owner outcome drain hadapter =>
        cases owner <;> cases outcome <;> exact ih hidle
    | disconnectSettles owner resolved hadapter => cases owner <;> exact ih hidle
    | adapterReturns owner adapter _ hadapter hreturns =>
        obtain ⟨-, hpromise, hstate⟩ := adapterReturns_kept hreturns
        rw [hpromise]
        exact ih (hstate hidle)
    | shutdownFinally hsettled => rfl

/-- A shutdown that begins from idle keeps the runtime from starting. -/
theorem neverStarts_of_idle (h : Reaches TenantRuntime.step allowed initial r) (hidle : r.state = .idle)
    (hstep : r.step .shutdown = some r') : r'.NeverStarts := by
  have hstart := ((runtimeInvariant_reached h).idle hidle).1
  obtain rfl := Option.some.inj hstep
  unfold callShutdown
  rw [idle_reached h hidle]
  dsimp only
  rw [if_neg (by simp [hidle]), if_pos hstart]
  constructor
  · rw [start_runRound]
    exact hstart
  · exact state_runRound _

end Runs

end TenantRuntime

/-! ## The composition -/

namespace TenantSystem

section System

variable {config : AdapterConfig} {binding : TenantBinding} {s s' t : TenantSystem} {action : TenantAction}

/-- A turn of the system is a turn of the runtime, or leaves it alone. -/
theorem runtime_moves (h : s.step config action = some s') :
    s'.runtime = s.runtime ∨ ∃ action, s.runtime.step action = some s'.runtime := by
  cases action with
  | runtime action =>
      simp only [step] at h
      split at h
      · obtain ⟨runtime, hruntime, rfl⟩ := Option.map_eq_some_iff.mp h
        exact .inr ⟨action, hruntime⟩
      · cases h
  | routing action =>
      simp only [step] at h
      split at h
      · cases h
      · obtain ⟨routing, -, rfl⟩ := Option.map_eq_some_iff.mp h
        exact .inl rfl

/-- The same of the controller. -/
theorem controller_moves (h : s.step config action = some s') :
    Routing.ControllerMoves s.routing.controller s'.routing.controller := by
  cases action with
  | runtime action =>
      simp only [step] at h
      split at h
      · obtain ⟨runtime, -, rfl⟩ := Option.map_eq_some_iff.mp h
        show Routing.ControllerMoves _
          (if runtime.drains = s.runtime.drains then s.routing.controller else s.routing.controller.shutdown)
        split
        · exact .inl rfl
        · exact .inr ⟨.shutdown, rfl⟩
      · cases h
  | routing action =>
      simp only [step] at h
      split at h
      · cases h
      · obtain ⟨routing, hrouting, rfl⟩ := Option.map_eq_some_iff.mp h
        exact Routing.controller_moves hrouting

theorem runtime_reached (h : Reaches (TenantSystem.step config) Always s t) :
    Reaches TenantRuntime.step Always s.runtime t.runtime := by
  apply h.project runtime
  intro t action u _ hstep
  rcases runtime_moves hstep with hsame | ⟨action, hmoves⟩
  · exact .inl hsame
  · exact .inr ⟨action, trivial, hmoves⟩

theorem controller_reached (h : Reaches (TenantSystem.step config) Always s t) :
    Reaches Controller.step Always s.routing.controller t.routing.controller := by
  apply h.project (fun s => s.routing.controller)
  intro t action u _ hstep
  rcases controller_moves hstep with hsame | ⟨action, hmoves⟩
  · exact .inl hsame
  · exact .inr ⟨action, trivial, hmoves⟩

/-- Once it is emptied, the controller stays so in every run. -/
theorem emptied_reached {c c' : Controller} (h : Reaches Controller.step Always (Controller.initial binding) c)
    (hempty : c.Emptied) (hlater : Reaches Controller.step Always c c') :
    c'.Emptied ∧ ∀ id, c'.dispatches id = c.dispatches id := by
  apply hlater.invariant_reached (I := fun c' => c'.Emptied ∧ ∀ id, c'.dispatches id = c.dispatches id)
  · exact ⟨hempty, fun _ => rfl⟩
  · intro d a d' hrun ⟨hd, hsame⟩ _ hstep
    have hreached := h.trans hrun
    have hinv := controllerInvariant_reached hreached
    have hjoins := joinInvariant_reached hreached
    have hjoins' := joinInvariant_reached (hreached.tail trivial hstep)
    constructor
    · exact hd.step hinv hjoins' hstep
    · intro id
      rw [dispatches_step hinv hjoins hjoins' hd.1 hstep, hsame]

/-- A drain that has resolved with `stopped` has emptied the controller. -/
theorem emptied_of_drainOutcome {c : Controller} (h : Reaches Controller.step Always (Controller.initial binding) c)
    {drain : Nat} (hdrain : c.drainOutcome drain = some .stopped) : c.Emptied := by
  unfold Controller.drainOutcome at hdrain
  split at hdrain
  · rename_i tracked drained htask
    exact emptied_of_resolved (joinInvariant_reached h) (shutdownInvariant_reached h) htask rfl
  · cases hdrain
  · cases hdrain
  · cases hdrain

/-- Calls that count as drained are. -/
theorem emptied_of_drained (h : Reaches (TenantSystem.step config) Always (TenantSystem.initial binding) s) :
    s.runtime.drained = true → s.routing.controller.Emptied := by
  apply h.invariant_reached (I := fun s => s.runtime.drained = true → s.routing.controller.Emptied)
  · exact fun hdrained => Bool.noConfusion hdrained
  · intro s action s' hrun ih _ hstep hdrained
    have hreached := controller_reached hrun
    -- the turn has emptied the controller, or finds it empty
    have hempty : s.routing.controller.Emptied := by
      cases action with
      | runtime action =>
          simp only [step] at hstep
          split at hstep
          · rename_i hpermits
            obtain ⟨runtime, hruntime, rfl⟩ := Option.map_eq_some_iff.mp hstep
            rcases TenantRuntime.drained_of_step hruntime hdrained with hold | ⟨owner, rfl⟩
            · exact ih hold
            · simp only [permits] at hpermits
              split at hpermits
              · exact emptied_of_drainOutcome hreached (beq_iff_eq.mp hpermits)
              · cases hpermits
          · cases hstep
      | routing action =>
          simp only [step] at hstep
          split at hstep
          · cases hstep
          · obtain ⟨routing, -, rfl⟩ := Option.map_eq_some_iff.mp hstep
            exact ih hdrained
    rcases controller_moves hstep with hsame | ⟨a, hmoves⟩
    · rw [hsame]
      exact hempty
    · exact (emptied_reached hreached hempty (.tail .refl trivial hmoves)).1

/-- What `shutdown()` reports has happened to the runtime. -/
theorem reported_of_reportsStopped (h : Reaches TenantRuntime.step Always .initial s.runtime)
    (hreports : s.ReportsStopped) : s.runtime.Reported := by
  rcases hreports with ⟨n, hround⟩ | hreply
  · exact (TenantRuntime.runtimeInvariant_reached h).settled n hround
  · unfold TenantRuntime.callShutdown at hreply
    split at hreply
    · cases hreply
    · dsimp only at hreply
      split at hreply
      · rename_i hstopped
        exact .inl hstopped
      · split at hreply <;> cases hreply

/-- **A stopped tenant runtime is really stopped.**  The client is connected at most once, and not at all when
`shutdown()` comes first; a `shutdown()` that has resolved with `stopped` finds no call tracked and the client
disconnected; and from then on no call is tracked and no agent is dispatched. -/
theorem stopped_for_good (config : AdapterConfig) (binding : TenantBinding) (s : TenantSystem)
    (h : Reaches (TenantSystem.step config) Always (TenantSystem.initial binding) s) :
    s.runtime.connects ≤ 1 ∧
      (s.runtime.state = .idle → ∀ s', s.step config (.runtime .shutdown) = some s' →
        ∀ t, Reaches (TenantSystem.step config) Always s' t → t.runtime.connects = 0) ∧
      (s.ReportsStopped → s.routing.controller.calls = [] ∧ s.runtime.disconnected = true ∧
        ∀ t, Reaches (TenantSystem.step config) Always s t →
          t.routing.controller.calls = [] ∧
            ∀ id, t.routing.controller.dispatches id = s.routing.controller.dispatches id) := by
  have hruntime := runtime_reached h
  have hinv := TenantRuntime.runtimeInvariant_reached hruntime
  refine ⟨?_, ?_, ?_⟩
  · rw [hinv.connects]
    split <;> omega
  · intro hidle s' hstep t hlater
    have hshutdown : s.runtime.step .shutdown = some s'.runtime := by
      have hmap : (s.runtime.step .shutdown).map (s.carryOut .shutdown) = some s' := hstep
      obtain ⟨runtime, hrun, rfl⟩ := Option.map_eq_some_iff.mp hmap
      exact hrun
    have hnever : t.runtime.NeverStarts :=
      (runtime_reached hlater).invariant (TenantRuntime.neverStarts_of_idle hruntime hidle hshutdown)
        fun _ _ _ hnever _ hstep => hnever.step hstep
    have hconnects := (TenantRuntime.runtimeInvariant_reached
      ((hruntime.tail trivial hshutdown).trans (runtime_reached hlater))).connects
    rw [hconnects, if_pos hnever.1]
  · intro hreports
    obtain ⟨⟨hdrained, -⟩, hdisconnected⟩ := hinv.reported (reported_of_reportsStopped hruntime hreports)
    have hempty := emptied_of_drained h hdrained
    refine ⟨hempty.2, hdisconnected, fun t hlater => ?_⟩
    obtain ⟨hempty', hsame⟩ := emptied_reached (controller_reached h) hempty (controller_reached hlater)
    exact ⟨hempty'.2, hsame⟩

end System

/-- A tenant is started, and the resolver is asked for its first caller. -/
def callingIn : List TenantAction :=
  [.runtime .start, .runtime (.connectSettles true), .routing (.adapter .connected ""), .routing (.adapter .begin ""),
    .routing (.adapter (.participantConnected (some EventAdapter.sampleParticipant)) ""), .routing (.adapter .begin "")]

/-- Turns of the controller. -/
def controllerTurns (actions : List Action) : List TenantAction :=
  actions.map fun action => .routing (.controller action)

/-- It is shut down while the claim of that call is on its way; a second caller comes in afterwards. -/
def stoppingMidway : List TenantAction :=
  let respond := Dependencies.willing.respond
  callingIn ++
    [.routing (.adapter (.resolved (.ok (some ⟨some "+15550100", some "inbound"⟩))) "session"),
      .runtime .shutdown, .runtime (.startAwaited 0),
      .routing (.adapter (.participantConnected (some EventAdapter.sampleParticipant)) "")] ++
    controllerTurns ([.joinAnswer 0 respond] ++ activating 0 ++ [.joinSettle 0, .joinFinally 0]) ++
    controllerTurns [.shutdownStep 0, .opBegin 0, .opAnswer 0 respond, .opResume 0, .opAnswer 0 respond,
      .opAnswer 0 respond, .opResume 0, .opAnswer 0 respond, .opAnswer 0 respond, .opResume 0, .shutdownStep 0] ++
    [.runtime (.drainSettles (.round 0) .stopped), .runtime (.disconnectSettles (.round 0) true),
      .runtime (.adapterReturns (.round 0)), .routing (.answered ""), .routing (.adapter .begin "late")]

theorem stopped_for_good_midway :
    let s := final (TenantSystem.step EventAdapter.sampleConfig) (.initial sampleBinding) stoppingMidway
    s.runtime.rounds = [.settled (some true)] ∧ s.runtime.connects ≤ 1 ∧ s.routing.controller.calls = [] := by
  have hrun : (execute (TenantSystem.step EventAdapter.sampleConfig) (.initial sampleBinding)
      stoppingMidway).isSome = true := by
    decide +kernel
  have hrounds : (final (TenantSystem.step EventAdapter.sampleConfig) (.initial sampleBinding)
      stoppingMidway).runtime.rounds = [.settled (some true)] := by
    decide +kernel
  have hstopped := stopped_for_good EventAdapter.sampleConfig sampleBinding _
    (Reaches.of_execute (execute_final hrun))
  refine ⟨hrounds, hstopped.1, (hstopped.2.2 (.inl ⟨0, ?_⟩)).1⟩
  rw [hrounds]
  rfl

end TenantSystem

end Connector
end VoiceAssistants
