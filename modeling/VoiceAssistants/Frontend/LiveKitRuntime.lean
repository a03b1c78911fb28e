import Mathlib.Data.List.Basic

/-!
# The packets of a voice session (`frontend/src/lib/livekitSessionRuntime.ts`)

The connection status of a session, the messages of an agent about its lifecycle, and the transcripts and tasks that
`useLiveKitSession` makes of the packets it receives.

A packet is what `JSON.parse` gives, a number of it an IEEE double.  Of two values, `===` finds texts, numbers and truth values
equal that are the same, and no two arrays or objects of different packets.
-/

namespace VoiceAssistants
namespace LiveKitRuntime

/-! ## JSON values of JavaScript -/

/-- What `JSON.parse` gives; an object has each of its members once. -/
inductive JsValue
  | null
  | boolean (value : Bool)
  | number (value : Float)
  | string (value : String)
  | array (items : List JsValue)
  | object (members : List (String × JsValue))

namespace JsValue

/-- `value.name`, where it is not `undefined`. -/
def member? (value : JsValue) (name : String) : Option JsValue :=
  match value with
  | object members => (members.find? (·.1 = name)).map (·.2)
  | _ => none

/-- `Boolean(value)` -/
def truthy : JsValue → Bool
  | null => false
  | boolean value => value
  | number value => !(value == 0 || value.isNaN)
  | string value => value ≠ ""
  | array _ | object _ => true

/-- `value === other`, of values that come from different packets. -/
def strictEquals : JsValue → JsValue → Bool
  | null, null => true
  | boolean value, boolean other => value == other
  | number value, number other => value == other
  | string value, string other => value == other
  | _, _ => false

/-- `value.first || value.second || … || otherwise` -/
def firstOf (value : JsValue) (names : List String) (otherwise : JsValue) : JsValue :=
  ((names.filterMap fun name => (value.member? name).filter truthy).head?).getD otherwise

/-- The text of a member, if it is one. -/
def text? (value : JsValue) (name : String) : Option String :=
  match value.member? name with
  | some (string text) => some text
  | _ => none

/-- `typeof value.name === "number"` -/
def hasNumber (value : JsValue) (name : String) : Bool :=
  match value.member? name with
  | some (number _) => true
  | _ => false

end JsValue

/-! ## The status of the connection -/

/-- `LiveKitConnectionStatus` -/
inductive LiveKitConnectionStatus
  | disconnected
  | connecting
  | waitingForAgent
  | waitingForAudio
  | connected
  | reconnecting
  | recovering
  | error
  deriving DecidableEq

/-- `LiveKitLifecycleEvent` -/
inductive LiveKitLifecycleEvent
  | roomConnected
  | audioReady
  | audioBlocked
  | reconnecting
  | reconnected
  | agentRecovering
  | agentReady
  | agentFailed
  | agentUnavailable
  | disconnected
  | connectionError

/-- `AgentLifecycleState` -/
inductive AgentLifecycleState
  | starting
  | ready
  | recovering
  | recovered
  | failed
  | ended
  deriving DecidableEq

def getLiveKitConnectionStatus (event : LiveKitLifecycleEvent) (hasAssistantAudio isAudioPlaybackBlocked : Bool) :
    LiveKitConnectionStatus :=
  match event with
  | .roomConnected | .agentUnavailable => .waitingForAgent
  | .audioReady => .connected
  | .audioBlocked => .waitingForAudio
  | .reconnecting => .reconnecting
  | .agentRecovering => .recovering
  | .agentReady => if isAudioPlaybackBlocked then .waitingForAudio else .connected
  | .agentFailed => .error
  | .reconnected =>
      if isAudioPlaybackBlocked then .waitingForAudio
      else if hasAssistantAudio then .connected
      else .waitingForAgent
  | .disconnected => .disconnected
  | .connectionError => .error

def getAgentLifecycleStatus (state : AgentLifecycleState) (hasAssistantAudio isAudioPlaybackBlocked : Bool) :
    LiveKitConnectionStatus :=
  match state with
  | .starting => .waitingForAgent
  | .recovering => .recovering
  | .ready | .recovered =>
      if isAudioPlaybackBlocked then .waitingForAudio
      else if hasAssistantAudio then .connected
      else .waitingForAgent
  | .failed => .error
  | .ended => .disconnected

/-- `isCurrentSessionGeneration` -/
def isCurrentSessionGeneration (expected current : Nat) : Prop :=
  expected = current

instance (expected current : Nat) : Decidable (isCurrentSessionGeneration expected current) :=
  inferInstanceAs (Decidable (_ = _))

/-! ## Messages of the agent -/

/-- `AGENT_LIFECYCLE_STATES` -/
def agentLifecycleStates : List (String × AgentLifecycleState) :=
  [("starting", .starting), ("ready", .ready), ("recovering", .recovering), ("recovered", .recovered),
    ("failed", .failed), ("ended", .ended)]

/-- What is used of an `AgentLifecycleMessage`. -/
structure AgentLifecycleMessage where
  state : AgentLifecycleState
  sessionId : String

def parseAgentLifecycleMessage (value : JsValue) : Option AgentLifecycleMessage :=
  if value.text? "type" = some "agent_lifecycle" ∨ value.text? "type" = some "agent_heartbeat" then do
    let state ← value.text? "state"
    let entry ← agentLifecycleStates.find? (·.1 = state)
    let sessionId ← value.text? "session_id"
    if value.hasNumber "sequence" && value.hasNumber "timestamp" then some ⟨entry.2, sessionId⟩ else none
  else none

/-! ## Transcripts and tasks -/

structure TranscriptMessage where
  id : JsValue
  speaker : JsValue
  text : JsValue
  isInterrupted : JsValue
  timestamp : String

structure TaskItem where
  id : JsValue
  title : JsValue
  toolName : JsValue
  status : JsValue
  output : JsValue
  errorMessage : JsValue
  executionTimeMs : JsValue
  idempotencyKey : JsValue
  updatedAt : String

/-- The message of a transcript; `madeUp` is its identifier if there is none. -/
def transcriptMessage (event : JsValue) (madeUp timestamp : String) : TranscriptMessage where
  id := event.firstOf ["id"] (.string madeUp)
  speaker := event.firstOf ["speaker"] (.string "assistant")
  text := event.firstOf ["text"] (.string "")
  isInterrupted := event.firstOf ["isInterrupted"] (.boolean false)
  timestamp := timestamp

/-- `normalizedTask` -/
def normalizedTask (rawTask : JsValue) (madeUp updatedAt : String) : TaskItem where
  id := rawTask.firstOf ["id"] (.string madeUp)
  title := rawTask.firstOf ["title"] (.string "Voice Action")
  toolName := rawTask.firstOf ["tool_name", "toolName"] (.string "tool")
  status := rawTask.firstOf ["status"] (.string "completed")
  output := rawTask.firstOf ["output"] .null
  errorMessage := rawTask.firstOf ["errorMessage", "error_message"] .null
  executionTimeMs := rawTask.firstOf ["executionTimeMs", "execution_time_ms"] (.number 0)
  idempotencyKey := rawTask.firstOf ["idempotencyKey", "idempotency_key"] .null
  updatedAt := updatedAt

/-- The tasks after one is received: it replaces the first with its identifier, or comes first. -/
def receiveTask (tasks : List TaskItem) (task : TaskItem) : List TaskItem :=
  match tasks.findIdx? (·.id.strictEquals task.id) with
  | some existingIdx => tasks.set existingIdx task
  | none => task :: tasks

/-- The last message is marked as interrupted, if it is the assistant's. -/
def interruptLast (messages : List TranscriptMessage) : List TranscriptMessage :=
  match messages.getLast? with
  | some last =>
      if last.speaker.strictEquals (.string "assistant") && !last.isInterrupted.truthy then
        messages.dropLast ++ [{ last with isInterrupted := .boolean true }]
      else messages
  | none => messages

end LiveKitRuntime
end VoiceAssistants
