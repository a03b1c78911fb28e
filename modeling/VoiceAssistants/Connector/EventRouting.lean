import VoiceAssistants.Connector.AdapterSteps

/-!
# The adapter and its controller

`controller.handleEvent` is called in a turn of the adapter, and its promise is awaited before the queue goes on.
`awaited` is what this promise stands for, and `replied` the outcome once it has settled; no other outcome reaches
the adapter.  All other turns of the two, and the order of the turns, are free.
-/

namespace VoiceAssistants
namespace Connector

open Async

structure Routing where
  adapter : EventAdapter
  controller : Controller
  awaited : Option Reply

/-- A turn of the adapter that does not continue after `handleEvent` (`sessionId` is the `randomUUID()` of the join
that the turn may hand over), the continuation after it, or a turn of the controller. -/
inductive RoutingAction
  | adapter (action : AdapterAction) (sessionId : String)
  | answered (sessionId : String)
  | controller (action : Action)

/-- The outcome of a promise of `handleEvent`, once it has settled. -/
def Controller.replied (c : Controller) : Reply → Option (Except String Decision)
  | .decided result => some (.ok result)
  | .serialized cell ticket => c.outcome cell ticket
  | .joining join =>
      match c.joins join with
      | some ⟨.finished result, _⟩ => some result
      | _ => none

/-- The continuation after `await this.controller.handleEvent(…)`. -/
def AdapterAction.isAnswer : AdapterAction → Bool
  | .eventAnswered _ => true
  | _ => false

/-- A call of `handleEvent`, which only the adapter makes. -/
def Action.isEvent : Action → Bool
  | .handleEvent _ _ => true
  | _ => false

namespace Routing

/-- `new ThreeCxCallController(…)` and `new ThreeCxSdkEventAdapter(…)`. -/
def initial (binding : TenantBinding) : Routing where
  adapter := .initial
  controller := .initial binding
  awaited := none

/-- The adapter has taken a turn, and calls `handleEvent` with the event it has handed over. -/
def handOver (r : Routing) (adapter : EventAdapter) (sessionId : String) : Routing :=
  match adapter.routed.drop r.adapter.routed.length with
  | routed :: _ =>
      let handled := r.controller.handleEvent (some routed.event) sessionId
      ⟨adapter, handled.1, some handled.2⟩
  | [] => { r with adapter := adapter }

/-- One turn of the event loop. -/
def step (config : AdapterConfig) (r : Routing) : RoutingAction → Option Routing
  | .adapter action sessionId =>
      if action.isAnswer then none
      else (r.adapter.step config action).map fun adapter => r.handOver adapter sessionId
  | .answered sessionId =>
      match r.awaited.bind r.controller.replied with
      | some outcome =>
          (r.adapter.step config (.eventAnswered (outcome.map fun result => some result.reason))).map fun adapter =>
            { r with awaited := none }.handOver adapter sessionId
      | none => none
  | .controller action =>
      if action.isEvent then none
      else (r.controller.step action).map fun controller => { r with controller := controller }

section Step

variable {config : AdapterConfig} {r r' : Routing} {adapter : EventAdapter} {sessionId : String}

/-- A turn of the adapter hands over one event, or none. -/
inductive Hands (a a' : EventAdapter) : Option Routed → Prop
  | event (routed : Routed) (appended : a'.routed = a.routed ++ [routed]) : Hands a a' (some routed)
  | nothing (same : a'.routed = a.routed) : Hands a a' none

/-- The gate hands nothing over. -/
theorem admitted_routed {a a' : EventAdapter} (h : EventAdapter.Admitted a a') : a'.routed = a.routed := by
  cases h with
  | left => rfl
  | resolving => rfl

theorem hands_of_admitted {a b a' : EventAdapter} (h : EventAdapter.Admitted b a') (hsame : b.routed = a.routed) :
    ∃ handed, Hands a a' handed :=
  ⟨none, .nothing ((admitted_routed h).trans hsame)⟩

theorem hands_of_sweep {a b a' : EventAdapter} {current : Snapshot} {epoch : Nat} {tracked : List (String × Int)}
    (h : EventAdapter.SweepEnds config b current epoch tracked a') (hsame : b.routed = a.routed) :
    ∃ handed, Hands a a' handed := by
  cases h with
  | opened _ all admitted => exact hands_of_admitted admitted hsame
  | ended before rest callId participantId split gone =>
      refine ⟨some ⟨EventAdapter.endEvent config callId, true, b.ready⟩, .event _ ?_⟩
      rw [← hsame]
      rfl

theorem hands_of_step {a a' : EventAdapter} {action : AdapterAction} (h : a.step config action = some a') :
    ∃ handed, Hands a a' handed := by
  have hstop : a.stop.routed = a.routed := by
    unfold EventAdapter.stop
    split <;> rfl
  cases EventAdapter.effect_of_step h with
  | start => exact ⟨none, .nothing rfl⟩
  | stop => exact ⟨none, .nothing hstop⟩
  | connected => exact ⟨none, .nothing rfl⟩
  | disconnected => exact ⟨none, .nothing rfl⟩
  | signalled => exact ⟨none, .nothing rfl⟩
  | joinQueued => exact ⟨none, .nothing rfl⟩
  | endQueued => exact ⟨none, .nothing rfl⟩
  | stale => exact ⟨none, .nothing rfl⟩
  | firstConnection => exact ⟨none, .nothing rfl⟩
  | reconnected => exact ⟨none, .nothing rfl⟩
  | joinBegins participant rest idle head _ admitted => exact hands_of_admitted admitted rfl
  | endUntracked => exact ⟨none, .nothing rfl⟩
  | endBegins => exact ⟨some _, .event _ rfl⟩
  | fetched epoch current running _ ends => exact hands_of_sweep ends rfl
  | fetchFailed => exact ⟨none, .nothing rfl⟩
  | swept callId participantId rest current epoch reason running gone _ ends => exact hands_of_sweep ends rfl
  | sweepFailed => exact ⟨none, .nothing rfl⟩
  | unresolved => exact ⟨none, .nothing rfl⟩
  | resolved => exact ⟨some _, .event _ rfl⟩
  | joinFailed => exact ⟨none, .nothing rfl⟩
  | joined => exact ⟨none, .nothing rfl⟩
  | joinRejected => exact ⟨none, .nothing rfl⟩
  | endFailed => exact ⟨none, .nothing rfl⟩
  | ended => exact ⟨none, .nothing rfl⟩
  | endRefused => exact ⟨none, .nothing rfl⟩
  | resumed rest running _ admitted => exact hands_of_admitted admitted rfl

theorem handOver_event {routed : Routed} (h : Hands r.adapter adapter (some routed)) :
    r.handOver adapter sessionId =
      ⟨adapter, (r.controller.handleEvent (some routed.event) sessionId).1,
        some (r.controller.handleEvent (some routed.event) sessionId).2⟩ := by
  cases h with
  | event _ appended => simp [handOver, appended]

theorem handOver_nothing (h : Hands r.adapter adapter none) :
    r.handOver adapter sessionId = { r with adapter := adapter } := by
  cases h with
  | nothing same => simp [handOver, same]

/-- The controller takes a turn of its own, or none. -/
def ControllerMoves (c c' : Controller) : Prop :=
  c' = c ∨ ∃ action, c.step action = some c'

theorem handOver_moves {action : AdapterAction} (h : r.adapter.step config action = some adapter) :
    ControllerMoves r.controller (r.handOver adapter sessionId).controller := by
  obtain ⟨handed, hhands⟩ := hands_of_step h
  cases handed with
  | some routed =>
      rw [handOver_event hhands]
      exact .inr ⟨.handleEvent (some routed.event) sessionId, rfl⟩
  | none =>
      rw [handOver_nothing hhands]
      exact .inl rfl

/-- Each turn of the two is a turn of the controller, or leaves it alone. -/
theorem controller_moves {action : RoutingAction} (h : r.step config action = some r') :
    ControllerMoves r.controller r'.controller := by
  cases action with
  | adapter action sessionId =>
      simp only [step] at h
      split at h
      · cases h
      · obtain ⟨adapter, hadapter, rfl⟩ := Option.map_eq_some_iff.mp h
        exact handOver_moves hadapter
  | answered sessionId =>
      simp only [step] at h
      split at h
      · rename_i outcome houtcome
        obtain ⟨adapter, hadapter, rfl⟩ := Option.map_eq_some_iff.mp h
        exact handOver_moves (r := { r with awaited := none }) hadapter
      · cases h
  | controller action =>
      simp only [step] at h
      split at h
      · cases h
      · obtain ⟨controller, hcontroller, rfl⟩ := Option.map_eq_some_iff.mp h
        exact .inr ⟨action, hcontroller⟩

end Step

end Routing

end Connector
end VoiceAssistants
