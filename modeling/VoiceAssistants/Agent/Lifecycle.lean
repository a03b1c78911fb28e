import VoiceAssistants.Async.Run
import VoiceAssistants.Frontend.LiveKitRuntime

/-!
# Lifecycle messages of the agent (`agent/lifecycle.py`)

The tasks of a job publish the state of the agent through one `AgentLifecyclePublisher`, whose heartbeat repeats the
last state.  What a task does between two awaits is one step, and the steps come in any order.

* `published_in_order` — the packets of a run are those of its actions in their order, numbered without gaps, and the
  browser reads from each the state that the transitions have left.
* `heartbeat_silent` — when a `stop` has returned, no heartbeat is published any more.

Whether a packet arrives is outside: `_publish` only logs an exception of `publish_data`.
-/

namespace VoiceAssistants
namespace AgentLifecycle

open Async LiveKitRuntime

inductive EventType
  | agentLifecycle
  | agentHeartbeat
  deriving DecidableEq

/-- The `payload` of `_publish`, with the fields that its callers add. -/
structure Payload where
  eventType : EventType
  state : AgentLifecycleState
  sessionId : String
  sequence : Nat
  timestamp : Float
  recoveryAttempt : Nat
  code : Option String
  retryable : Option Bool

/-- Where the task of `_heartbeat_loop` is. -/
inductive Heartbeat
  | created
  | waiting
  | publishing
  | done
  deriving DecidableEq

/-- A call of `stop`: it returns when the task that it awaits ends. -/
inductive Stop
  | awaiting
  | returned
  deriving DecidableEq

structure AgentLifecyclePublisher where
  sessionId : String
  state : AgentLifecycleState
  sequence : Nat
  recoveryAttempt : Nat
  heartbeatTask : Option Heartbeat
  stopped : Bool
  stops : List Stop
  published : List Payload

inductive Action
  | transition (state : AgentLifecycleState) (code : Option String) (retryable : Option Bool) (participant : Bool)
      (time : Float)
  | startHeartbeat
  /-- The heartbeat begins, wakes when `_stopped` is set, or goes on after `publish_data`. -/
  | heartbeatRuns
  /-- The wait for `_stopped` times out; it can do so in the turn in which `_stopped` is set. -/
  | heartbeatTimesOut (participant : Bool) (time : Float)
  | stop

namespace AgentLifecyclePublisher

def initial (sessionId : String) : AgentLifecyclePublisher where
  sessionId := sessionId
  state := .starting
  sequence := 0
  recoveryAttempt := 0
  heartbeatTask := none
  stopped := false
  stops := []
  published := []

variable (p : AgentLifecyclePublisher)

/-- `_publish`, up to its await; `participant` says whether the room has a local participant. -/
def publish (participant : Bool) (time : Float) (eventType : EventType) (code : Option String)
    (retryable : Option Bool) : AgentLifecyclePublisher :=
  if participant then
    { p with
      sequence := p.sequence + 1
      published := p.published ++
        [⟨eventType, p.state, p.sessionId, p.sequence + 1, time, p.recoveryAttempt, code, retryable⟩] }
  else p

/-- `transition`, up to its await. -/
def transition (state : AgentLifecycleState) (code : Option String) (retryable : Option Bool) (participant : Bool)
    (time : Float) : AgentLifecyclePublisher :=
  { p with
    state := state
    recoveryAttempt := p.recoveryAttempt + if state = .recovering then 1 else 0 : AgentLifecyclePublisher }.publish
      participant time .agentLifecycle (code.filter (· ≠ "")) retryable

/-- The heartbeat does not run. -/
def atRest : Bool :=
  p.heartbeatTask.all (· = .done)

/-- `start_heartbeat` -/
def startHeartbeat : AgentLifecyclePublisher :=
  if p.atRest then { p with heartbeatTask := some .created } else p

/-- `while not self._stopped.is_set()` -/
def loop : AgentLifecyclePublisher :=
  if p.stopped then { p with heartbeatTask := some .done, stops := p.stops.map fun _ => .returned }
  else { p with heartbeatTask := some .waiting }

/-- `stop`, up to its await. -/
def stop : AgentLifecyclePublisher :=
  { p with stopped := true, stops := p.stops ++ [if p.atRest then .returned else .awaiting] }

def step : Action → Option AgentLifecyclePublisher
  | .transition state code retryable participant time => some (p.transition state code retryable participant time)
  | .startHeartbeat => some p.startHeartbeat
  | .heartbeatRuns =>
      match p.heartbeatTask with
      | some .created | some .publishing => some p.loop
      | some .waiting => if p.stopped then some p.loop else none
      | _ => none
  | .heartbeatTimesOut participant time =>
      if p.heartbeatTask = some .waiting then
        if participant then
          some { p.publish true time .agentHeartbeat none none with heartbeatTask := some .publishing }
        else some p.loop
      else none
  | .stop => some p.stop

end AgentLifecyclePublisher

/-! ## What the browser reads -/

def EventType.text : EventType → String
  | .agentLifecycle => "agent_lifecycle"
  | .agentHeartbeat => "agent_heartbeat"

def stateText : AgentLifecycleState → String
  | .starting => "starting"
  | .ready => "ready"
  | .recovering => "recovering"
  | .recovered => "recovered"
  | .failed => "failed"
  | .ended => "ended"

/-- What `JSON.parse` makes of the bytes of a payload. -/
def Payload.packet (payload : Payload) : JsValue :=
  .object ([("type", .string payload.eventType.text), ("state", .string (stateText payload.state)),
    ("session_id", .string payload.sessionId), ("sequence", .number payload.sequence.toFloat),
    ("timestamp", .number payload.timestamp), ("recovery_attempt", .number payload.recoveryAttempt.toFloat)] ++
    (payload.code.map fun code => ("code", JsValue.string code)).toList ++
    (payload.retryable.map fun retryable => ("retryable", JsValue.boolean retryable)).toList)

/-- The browser reads the state and the session of every packet. -/
theorem parse_packet (payload : Payload) :
    parseAgentLifecycleMessage payload.packet = some ⟨payload.state, payload.sessionId⟩ := by
  obtain ⟨eventType, state, _, _, _, _, _, _⟩ := payload
  cases eventType <;> cases state <;> rfl

/-! ## What a step does -/

/-- The state of a transition. -/
def Action.state? : Action → Option AgentLifecycleState
  | .transition state _ _ _ _ => some state
  | _ => none

/-- The type of the packet that an action publishes. -/
def Action.publishes? : Action → Option EventType
  | .transition _ _ _ participant _ => if participant then some .agentLifecycle else none
  | .heartbeatTimesOut participant _ => if participant then some .agentHeartbeat else none
  | _ => none

/-- What is published so far. -/
def messages (p : AgentLifecyclePublisher) : List (EventType × AgentLifecycleState) :=
  p.published.map fun payload => (payload.eventType, payload.state)

structure Numbered (p : AgentLifecyclePublisher) : Prop where
  sequence : p.published.map (·.sequence) = List.range' 1 p.sequence
  session : ∀ payload ∈ p.published, payload.sessionId = p.sessionId

/-- The heartbeat has ended, or it is started again and has not begun. -/
def Ended (p : AgentLifecyclePublisher) : Prop :=
  p.stopped = true ∧ (p.atRest = true ∨ p.heartbeatTask = some .created)

structure Stepped (p : AgentLifecyclePublisher) (action : Action) (q : AgentLifecyclePublisher) : Prop where
  session : q.sessionId = p.sessionId
  state : q.state = action.state?.getD p.state
  messages : messages q = messages p ++ (action.publishes?.map (·, q.state)).toList
  numbered : Numbered p → Numbered q
  heartbeat : action.publishes? = some .agentHeartbeat → p.heartbeatTask = some .waiting
  returned : .returned ∈ p.stops → .returned ∈ q.stops
  ended : (.returned ∈ p.stops → Ended p) → .returned ∈ q.stops → Ended q

open AgentLifecyclePublisher

variable {sessionId : String} {actions : List Action} {action : Action} {p q s t : AgentLifecyclePublisher}
  {time : Float} {eventType : EventType} {code : Option String} {retryable : Option Bool}

theorem Ended.not_waiting (h : Ended p) : p.heartbeatTask ≠ some .waiting := by
  intro hwaiting
  simpa [atRest, hwaiting] using h.2

theorem messages_publish :
    messages (p.publish true time eventType code retryable) = messages p ++ [(eventType, p.state)] := by
  simp [messages, publish]

theorem Numbered.publish (h : Numbered p) : Numbered (p.publish true time eventType code retryable) := by
  constructor
  case sequence => simp [AgentLifecyclePublisher.publish, h.sequence, List.range'_concat, Nat.add_comm]
  case session =>
    intro payload hmem
    rcases List.mem_append.mp hmem with hbefore | hnew
    · exact h.session payload hbefore
    · rw [List.mem_singleton.mp hnew]
      rfl

theorem stepped_loop (hstate : action.state? = none) (hpublishes : action.publishes? = none) :
    Stepped p action p.loop := by
  rw [loop]
  split
  · rename_i hstopped
    exact ⟨rfl, by rw [hstate]; rfl, by simp [hpublishes, messages], fun h => ⟨h.1, h.2⟩, by simp [hpublishes],
      fun h => List.mem_map.mpr ⟨_, h, rfl⟩, fun _ _ => ⟨hstopped, .inl rfl⟩⟩
  · rename_i hstopped
    exact ⟨rfl, by rw [hstate]; rfl, by simp [hpublishes, messages], fun h => ⟨h.1, h.2⟩, by simp [hpublishes], id,
      fun h hmem => absurd (h hmem).1 hstopped⟩

theorem stepped_of_step (h : step p action = some q) : Stepped p action q := by
  cases action with
  | transition state code retryable participant time =>
      obtain rfl := Option.some.inj h
      unfold transition
      cases participant with
      | false => exact ⟨rfl, rfl, (List.append_nil _).symm, fun h => ⟨h.1, h.2⟩, nofun, id, id⟩
      | true => exact ⟨rfl, rfl, messages_publish, fun h => Numbered.publish ⟨h.1, h.2⟩, nofun, id, id⟩
  | startHeartbeat =>
      obtain rfl := Option.some.inj h
      rw [startHeartbeat]
      split
      · exact ⟨rfl, rfl, (List.append_nil _).symm, fun h => ⟨h.1, h.2⟩, nofun, id, fun h hmem => ⟨(h hmem).1, .inr rfl⟩⟩
      · exact ⟨rfl, rfl, (List.append_nil _).symm, id, nofun, id, id⟩
  | heartbeatTimesOut participant time =>
      simp only [step] at h
      split at h
      · rename_i hwaiting
        cases participant with
        | false =>
            obtain rfl := Option.some.inj h
            exact stepped_loop rfl rfl
        | true =>
            obtain rfl := Option.some.inj h
            exact ⟨rfl, rfl, messages_publish, fun h => ⟨h.publish.1, h.publish.2⟩, fun _ => hwaiting, id,
              fun h hmem => absurd hwaiting (h hmem).not_waiting⟩
      · cases h
  | heartbeatRuns =>
      have hloop : p.loop = q := by
        simp only [step] at h
        split at h
        · exact Option.some.inj h
        · exact Option.some.inj h
        · split at h
          · exact Option.some.inj h
          · cases h
        · cases h
      exact hloop ▸ stepped_loop rfl rfl
  | stop =>
      obtain rfl := Option.some.inj h
      refine ⟨rfl, rfl, (List.append_nil _).symm, fun h => ⟨h.1, h.2⟩, nofun, List.mem_append_left _, ?_⟩
      refine fun h hmem => ⟨rfl, ?_⟩
      rcases List.mem_append.mp hmem with hbefore | hnew
      · exact (h hbefore).2
      · by_cases hrest : p.atRest
        · exact .inl hrest
        · simp [hrest] at hnew

/-! ## The order of the packets -/

/-- The packets of some actions, each with the state of the last transition. -/
def history (state : AgentLifecycleState) : List Action → List (EventType × AgentLifecycleState)
  | [] => []
  | action :: actions =>
      (action.publishes?.map (·, action.state?.getD state)).toList ++ history (action.state?.getD state) actions

theorem messages_execute (h : execute step p actions = some q) (hnumbered : Numbered p) :
    messages q = messages p ++ history p.state actions ∧ Numbered q ∧ q.sessionId = p.sessionId := by
  induction actions generalizing p with
  | nil =>
      obtain rfl := Option.some.inj h
      exact ⟨(List.append_nil _).symm, hnumbered, rfl⟩
  | cons action actions ih =>
      cases hstep : step p action with
      | none => simp [execute, hstep] at h
      | some next =>
          simp only [execute, hstep] at h
          have hstepped := stepped_of_step hstep
          obtain ⟨hmessages, hnumbered, hsession⟩ := ih h (hstepped.numbered hnumbered)
          refine ⟨?_, hnumbered, hsession.trans hstepped.session⟩
          rw [hmessages, hstepped.messages, hstepped.state, history, List.append_assoc]

/-- The packets of a run are those of its actions in their order, with the state of the last transition; they are
numbered from one without gaps, and the browser reads the state of each. -/
theorem published_in_order (h : execute step (initial sessionId) actions = some p) :
    messages p = history .starting actions ∧
      p.published.map (·.sequence) = List.range' 1 p.published.length ∧
      ∀ payload ∈ p.published, parseAgentLifecycleMessage payload.packet = some ⟨payload.state, sessionId⟩ := by
  obtain ⟨hmessages, hnumbered, hsession⟩ := messages_execute h ⟨rfl, nofun⟩
  have hcount : p.published.length = p.sequence := by simpa using congrArg List.length hnumbered.sequence
  refine ⟨hmessages, by rw [hcount, hnumbered.sequence], fun payload hmem => ?_⟩
  rw [parse_packet, hnumbered.session payload hmem, hsession]
  rfl

/-- The heartbeat repeats a state; it is stopped while it publishes, and is started again. -/
def sampleActions : List Action :=
  [.startHeartbeat, .heartbeatRuns, .transition .ready none none true 1, .heartbeatTimesOut true 2, .stop,
    .heartbeatRuns, .startHeartbeat]

def sampleEnd : AgentLifecyclePublisher :=
  final step (initial "session") sampleActions

theorem execute_sampleActions : execute step (initial "session") sampleActions = some sampleEnd := rfl

theorem published_in_order_sample : messages sampleEnd = [(.agentLifecycle, .ready), (.agentHeartbeat, .ready)] :=
  (published_in_order execute_sampleActions).1

/-! ## The end of the heartbeat -/

def heartbeats (p : AgentLifecyclePublisher) : List (EventType × AgentLifecycleState) :=
  (messages p).filter (·.1 = .agentHeartbeat)

theorem heartbeats_step (hended : Ended p) (hstep : Stepped p action q) : heartbeats q = heartbeats p := by
  rw [heartbeats, hstep.messages, List.filter_append]
  cases hpublishes : action.publishes? with
  | none => exact List.append_nil _
  | some eventType =>
      cases eventType with
      | agentLifecycle => exact List.append_nil _
      | agentHeartbeat => exact absurd (hstep.heartbeat hpublishes) hended.not_waiting

/-- When a `stop` has returned, no heartbeat is published any more. -/
theorem heartbeat_silent (hreaches : Reaches step Always (initial sessionId) s) (hreturned : .returned ∈ s.stops)
    (hlater : Reaches step Always s t) : heartbeats t = heartbeats s := by
  have hended : .returned ∈ s.stops → Ended s :=
    hreaches.invariant nofun fun _ _ _ hended _ hstep => (stepped_of_step hstep).ended hended
  have hkept : .returned ∈ t.stops ∧ Ended t ∧ heartbeats t = heartbeats s := by
    apply hlater.invariant (I := fun t => .returned ∈ t.stops ∧ Ended t ∧ heartbeats t = heartbeats s)
      ⟨hreturned, hended hreturned, rfl⟩
    rintro before action after ⟨hstops, hbefore, hsame⟩ - hstep
    have hstepped := stepped_of_step hstep
    have hafter := hstepped.returned hstops
    exact ⟨hafter, hstepped.ended (fun _ => hbefore) hafter, (heartbeats_step hbefore hstepped).trans hsame⟩
  exact hkept.2.2

theorem heartbeat_silent_sample : heartbeats sampleEnd.loop = heartbeats sampleEnd :=
  heartbeat_silent (.of_execute execute_sampleActions) (by decide)
    (.of_execute (show execute step sampleEnd [.heartbeatRuns] = some sampleEnd.loop from rfl))

end AgentLifecycle
end VoiceAssistants
