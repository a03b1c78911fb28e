import VoiceAssistants.Frontend.LiveKitRuntime

/-!
# The browser's voice session (`frontend/src/hooks/useLiveKitSession.ts`)

The refs and the state of `useLiveKitSession`, and what every callback does between its awaits: `connect` and `disconnect`, the
handlers of a room and of its audio elements, the heartbeat timer, the gestures that retry playback, and the callbacks for
speech.  A callback that waits is a `Pending`, and `resume` goes on with the answer.  Rooms, timers, tracks, media elements and
audio nodes are numbers; what the browser answers when it is asked for the state of a room or of an audio context comes with the
action.

A room whose `room.connect` is resolved is connected, also where it has been disconnected while it was connecting.  The
identifiers and times that are made up for a message or a task come with the packet.  An audio graph that cannot be built, and
which nodes are connected to which, is not modelled.
-/

namespace VoiceAssistants
namespace BrowserSession

open LiveKitRuntime

/-! ## The hook -/

/-- The media refs and media state; `gains` are the gain nodes that have been set to 1, in their order. -/
structure MediaState where
  isMuted : Bool
  isBotSpeaking : Bool
  isUserSpeaking : Bool
  assistantGainNode : Option Nat
  analyserNode : Option Nat
  micStream : Option Nat
  audioCtx : Option Nat
  audioElement : Option Nat
  sourceNode : Option Nat
  assistantTrack : Option Nat
  hasAssistantAudio : Bool
  playbackRetryPending : Bool
  gains : List Nat

/-- The awaits of `connect`; `errorBody` reads the body of a response that is not ok. -/
inductive ConnectPoint
  | fetch
  | errorBody
  | json
  | roomConnect (room : Nat)
  | microphone (room : Nat)

/-- There is no room yet. -/
def ConnectPoint.beforeRoom : ConnectPoint → Bool
  | fetch | errorBody | json => true
  | _ => false

/-- A callback that waits, with what it remembers. -/
inductive Pending
  | connect (generation : Nat) (point : ConnectPoint)
  /-- `activateAssistantAudio`, at the playback. -/
  | activate (generation element gainNode : Nat)
  /-- `TrackSubscribed`, at `audioCtx.resume()` and at the activation. -/
  | trackSubscribed (room track element : Nat)
  | trackActivated (room track : Nat)
  | settled

/-- An audio element that has handlers. -/
structure Playback where
  room : Nat
  track : Nat
  gainNode : Nat

/-- The state and the refs of the hook, the generation of every room that has been created, the rooms that have been disconnected
(by `room.disconnect()` or by themselves) and have not connected since, the room of every timer, the audio elements with handlers,
how many media objects there are, and the callbacks that wait. -/
structure Session where
  connectionStatus : LiveKitConnectionStatus
  messages : List TranscriptMessage
  tasks : List TaskItem
  media : MediaState
  roomRef : Option Nat
  sessionGeneration : Nat
  connectInFlight : Option Nat
  sessionId : Option String
  intentionalDisconnect : Bool
  heartbeatTimer : Option Nat
  rooms : List Nat
  disconnected : List Nat
  timers : List Nat
  playbacks : List Playback
  objects : Nat
  pending : List Pending

def initialMedia : MediaState :=
  ⟨false, false, false, none, none, none, none, none, none, none, false, false, []⟩

def initial : Session :=
  ⟨.disconnected, [], [], initialMedia, none, 0, none, none, false, none, [], [], [], [], 0, []⟩

/-- How an await ends. -/
inductive Answer
  | done
  | notOk
  | track (mediaStreamTrack : Option Nat)
  | activated (value : Bool)
  | rejected

/-- The events of a room; tracks are of audio. -/
inductive RoomEvent
  | reconnecting
  | reconnected
  | disconnected
  | dataReceived (event : JsValue) (madeUp time : String)
  /-- The audio context is closed, and the one that is used is suspended. -/
  | trackSubscribed (track : Nat) (closed suspended : Bool)
  | trackUnsubscribed (track : Nat) (connected : Bool)
  | activeSpeakersChanged (isAgentSpeaking : Bool)

inductive ElementEvent
  | play
  | pause
  | ended

inductive Action
  | connect (sessionId : String)
  | disconnect
  | resume (index : Nat) (answer : Answer)
  | room (room : Nat) (event : RoomEvent)
  | element (index : Nat) (event : ElementEvent)
  | heartbeat (timer : Nat) (connected : Bool)
  | retryPlayback
  | speechStart
  | speechEnd (isAgentSpeaking : Bool)
  | unmuteAssistant
  | interruption
  | toggleMute

namespace MediaState

/-- `resetMediaState` -/
def reset (media : MediaState) : MediaState :=
  { initialMedia with gains := media.gains }

/-- The gain of the assistant's node is 1 again. -/
def unmute (media : MediaState) : MediaState :=
  match media.assistantGainNode with
  | some node => { media with gains := media.gains ++ [node] }
  | none => media

end MediaState

namespace Session

/-- `isCurrentSession(room)` -/
def isCurrent (session : Session) (room : Nat) : Prop :=
  session.rooms[room]? = some session.sessionGeneration ∧ session.roomRef = some room

instance (session : Session) (room : Nat) : Decidable (session.isCurrent room) :=
  inferInstanceAs (Decidable (_ ∧ _))

/-- A callback waits for something else, or is done. -/
def suspend (session : Session) (index : Nat) (pending : Pending) : Session :=
  { session with pending := session.pending.set index pending }

/-- A callback begins to wait. -/
def await (session : Session) (pending : Pending) : Session :=
  { session with pending := session.pending ++ [pending] }

/-- `activateAssistantAudio`, up to its await. -/
def activateAssistantAudio (session : Session) : Session :=
  match session.media.assistantGainNode, session.media.audioElement, session.media.audioCtx with
  | some gainNode, some element, some _ =>
      if session.media.isUserSpeaking then session
      else session.await (.activate session.sessionGeneration element gainNode)
  | _, _, _ => session

/-- `activateAssistantAudio`, after the playback. -/
def resumeActivate (session : Session) (index generation element gainNode : Nat) (activated : Bool) :
    Session :=
  if ¬ isCurrentSessionGeneration generation session.sessionGeneration ∨ session.media.audioElement ≠ some element then
    session.suspend index .settled
  else
    let media := { session.media with playbackRetryPending := !activated }
    if activated then
      suspend { session with
        media := { media with gains := media.gains ++ [gainNode] }
        connectionStatus := getLiveKitConnectionStatus .audioReady true false } index .settled
    else if media.hasAssistantAudio then
      suspend { session with
        media := media
        connectionStatus := getLiveKitConnectionStatus .audioBlocked true false } index .settled
    else suspend { session with media := media } index .settled

/-- `failCurrentSession` -/
def failCurrentSession (session : Session) (room : Nat) : Session :=
  if session.roomRef ≠ some room then session
  else
    { session with
      heartbeatTimer := none
      sessionGeneration := session.sessionGeneration + 1
      connectInFlight := none
      roomRef := none
      intentionalDisconnect := true
      sessionId := none
      media := session.media.reset
      disconnected := session.disconnected ++ [room]
      connectionStatus := getLiveKitConnectionStatus .agentFailed false false }

/-- `armAgentHeartbeatTimeout` -/
def armAgentHeartbeatTimeout (session : Session) (room : Nat) : Session :=
  { session with heartbeatTimer := some session.timers.length, timers := session.timers ++ [room] }

/-- `connect`, up to its first await. -/
def connect (session : Session) (sessionId : String) : Session :=
  if session.connectInFlight ≠ none ∨ session.roomRef ≠ none then session
  else
    let sessionGeneration := session.sessionGeneration + 1
    await { session with
      sessionGeneration := sessionGeneration
      connectInFlight := some sessionGeneration
      intentionalDisconnect := false
      connectionStatus := .connecting
      sessionId := some sessionId } (.connect sessionGeneration .fetch)

/-- The `finally` block of `connect`. -/
def finish (session : Session) (index generation : Nat) : Session :=
  suspend { session with
    connectInFlight := if session.connectInFlight = some generation then none else session.connectInFlight } index .settled

/-- The `catch` block of `connect`, and `finally`. -/
def failConnect (session : Session) (index generation : Nat) : Session :=
  if ¬ isCurrentSessionGeneration generation session.sessionGeneration then session.finish index generation
  else
    finish { session with
      roomRef := none
      intentionalDisconnect := true
      connectInFlight := none
      sessionGeneration := session.sessionGeneration + 1
      media := session.media.reset
      heartbeatTimer := none
      disconnected := session.disconnected ++ session.roomRef.toList
      connectionStatus := getLiveKitConnectionStatus .connectionError false false } index generation

/-- `new Room`, up to `room.connect`; its handlers are those of `receive`. -/
def createRoom (session : Session) (index generation : Nat) : Session :=
  let room := session.rooms.length
  suspend { session with rooms := session.rooms ++ [generation], roomRef := some room } index
    (.connect generation (.roomConnect room))

/-- The room has connected. -/
def roomConnected (session : Session) (index generation room : Nat) : Session :=
  let session := { session with disconnected := session.disconnected.filter (· ≠ room) }
  if isCurrentSessionGeneration generation session.sessionGeneration ∧ session.roomRef = some room then
    let connectionStatus :=
      if session.media.hasAssistantAudio then session.connectionStatus
      else getLiveKitConnectionStatus .roomConnected false false
    suspend (armAgentHeartbeatTimeout { session with connectionStatus := connectionStatus } room) index
      (.connect generation (.microphone room))
  else finish { session with disconnected := session.disconnected ++ [room] } index generation

/-- The microphone has been published. -/
def microphonePublished (session : Session) (index generation room : Nat) (mediaStreamTrack : Option Nat) :
    Session :=
  if isCurrentSessionGeneration generation session.sessionGeneration ∧ session.roomRef = some room then
    match mediaStreamTrack with
    | some track => finish { session with media := { session.media with micStream := some track } } index generation
    | none => session.failConnect index generation
  else finish { session with disconnected := session.disconnected ++ [room] } index generation

/-- `connect`, from one await to the next. -/
def resumeConnect (session : Session) (index generation : Nat) (point : ConnectPoint) (answer : Answer) :
    Session :=
  match point, answer with
  | .fetch, .rejected => session.failConnect index generation
  | .fetch, .notOk => session.suspend index (.connect generation .errorBody)
  | .fetch, _ => session.suspend index (.connect generation .json)
  | .errorBody, _ => session.failConnect index generation
  | .json, .rejected => session.failConnect index generation
  | .json, _ =>
      if isCurrentSessionGeneration generation session.sessionGeneration then session.createRoom index generation
      else session.finish index generation
  | .roomConnect _, .rejected => session.failConnect index generation
  | .roomConnect room, _ => session.roomConnected index generation room
  | .microphone _, .rejected => session.failConnect index generation
  | .microphone room, .track mediaStreamTrack => session.microphonePublished index generation room mediaStreamTrack
  | .microphone room, _ => session.microphonePublished index generation room none

/-- `TrackSubscribed`, once the audio context has been resumed: the audio graph is built and playback activated. -/
def buildGraph (session : Session) (room track : Nat) : Session :=
  let source := session.objects
  let gainNode := session.objects + 1
  let analyser := session.objects + 2
  let graph := { session with
    media := { session.media with
      sourceNode := some source
      assistantGainNode := some gainNode
      analyserNode := some analyser
      gains := session.media.gains ++ [gainNode] }
    playbacks := session.playbacks ++ [Playback.mk room track gainNode]
    objects := session.objects + 3 }
  graph.activateAssistantAudio

/-- `TrackSubscribed`, after `audioCtx.resume()`. -/
def resumeTrackSubscribed (session : Session) (index room track : Nat) : Session :=
  if session.isCurrent room ∧ session.media.assistantTrack = some track then
    (session.buildGraph room track).suspend index (.trackActivated room track)
  else session.suspend index .settled

/-- `TrackSubscribed`, up to its first await. -/
def trackSubscribed (session : Session) (room track : Nat) (closed suspended : Bool) : Session :=
  let element := session.objects
  let audioCtx := if session.media.audioCtx = none ∨ closed = true then some (session.objects + 1) else session.media.audioCtx
  let attached := { session with
    media := { session.media with
      audioElement := some element
      assistantTrack := some track
      hasAssistantAudio := true
      audioCtx := audioCtx }
    objects := session.objects + 2 }
  if suspended then attached.await (.trackSubscribed room track element)
  else (attached.buildGraph room track).await (.trackActivated room track)

/-- `TrackUnsubscribed` -/
def trackUnsubscribed (session : Session) (track : Nat) (connected : Bool) : Session :=
  if session.media.assistantTrack ≠ some track then session
  else
    { session with
      media := { session.media with
        audioElement := none
        sourceNode := none
        assistantTrack := none
        hasAssistantAudio := false
        playbackRetryPending := false
        isBotSpeaking := false
        assistantGainNode := none
        analyserNode := none }
      connectionStatus :=
        if connected then getLiveKitConnectionStatus .agentUnavailable false false else session.connectionStatus }

/-- `ActiveSpeakersChanged` -/
def activeSpeakersChanged (session : Session) (isAgentSpeaking : Bool) : Session :=
  if session.media.isUserSpeaking then session
  else
    let media := { session.media with isBotSpeaking := isAgentSpeaking }
    let spoken := { session with media := if isAgentSpeaking then media.unmute else media }
    if isAgentSpeaking && session.media.playbackRetryPending then spoken.activateAssistantAudio else spoken

/-- A message of the agent about its lifecycle. -/
def receiveLifecycle (session : Session) (room : Nat) (lifecycle : AgentLifecycleMessage) : Session :=
  if session.sessionId ≠ some lifecycle.sessionId then session
  else
    match lifecycle.state with
    | .failed => session.failCurrentSession room
    | .ended =>
        { session with
          intentionalDisconnect := true
          heartbeatTimer := none
          disconnected := session.disconnected ++ [room] }
    | state =>
        let armed := session.armAgentHeartbeatTimeout room
        { armed with
          media := { session.media with isBotSpeaking := false }
          connectionStatus :=
            getAgentLifecycleStatus state session.media.hasAssistantAudio session.media.playbackRetryPending }

/-- `DataReceived`; reading a member of `null` is an error that is caught. -/
def dataReceived (session : Session) (room : Nat) (event : JsValue) (madeUp time : String) : Session :=
  match parseAgentLifecycleMessage event with
  | some lifecycle => session.receiveLifecycle room lifecycle
  | none =>
      if event.text? "type" = some "transcript" then
        { session with messages := session.messages ++ [transcriptMessage event madeUp time] }
      else if event.text? "type" = some "task_update" then
        match (event.member? "task").filter JsValue.truthy with
        | some rawTask => { session with tasks := receiveTask session.tasks (normalizedTask rawTask madeUp time) }
        | none => session
      else session

/-- The `Disconnected` handler. -/
def roomDisconnected (session : Session) : Session :=
  { session with
    heartbeatTimer := none
    sessionGeneration := session.sessionGeneration + 1
    connectInFlight := none
    roomRef := none
    media := session.media.reset
    connectionStatus :=
      if session.intentionalDisconnect then getLiveKitConnectionStatus .disconnected false false
      else getLiveKitConnectionStatus .connectionError false false }

/-- What the handlers do for a room that is current. -/
def handle (session : Session) (room : Nat) (event : RoomEvent) : Session :=
  match event with
  | .reconnecting => { session with connectionStatus := getLiveKitConnectionStatus .reconnecting false false }
  | .reconnected =>
      let reconnected := { session with
        connectionStatus :=
          getLiveKitConnectionStatus .reconnected session.media.hasAssistantAudio session.media.playbackRetryPending }
      if session.media.playbackRetryPending then reconnected.activateAssistantAudio else reconnected
  | .disconnected => session.roomDisconnected
  | .dataReceived event madeUp time => session.dataReceived room event madeUp time
  | .trackSubscribed track closed suspended => session.trackSubscribed room track closed suspended
  | .trackUnsubscribed track connected => session.trackUnsubscribed track connected
  | .activeSpeakersChanged isAgentSpeaking => session.activeSpeakersChanged isAgentSpeaking

/-- An event of a room; every handler looks first whether the room is current. -/
def receive (session : Session) (room : Nat) (event : RoomEvent) : Session :=
  if room < session.rooms.length then
    let session' :=
      match event with
      | .disconnected => { session with disconnected := session.disconnected ++ [room] }
      | _ => session
    if session.isCurrent room then session'.handle room event else session'
  else session

/-- The handlers of an audio element. -/
def elementEvent (session : Session) (playback : Playback) (event : ElementEvent) : Session :=
  if session.isCurrent playback.room ∧ session.media.assistantTrack = some playback.track then
    match event with
    | .play =>
        if session.media.isUserSpeaking then session
        else { session with media := { session.media with gains := session.media.gains ++ [playback.gainNode] } }
    | .pause | .ended => { session with media := { session.media with isBotSpeaking := false } }
  else session

/-- The timer that has been armed last and not been cleared fires. -/
def heartbeat (session : Session) (timer : Nat) (connected : Bool) : Session :=
  match session.timers[timer]? with
  | some room =>
      if session.heartbeatTimer = some timer ∧ session.roomRef = some room ∧ connected = true then
        session.failCurrentSession room
      else session
  | none => session

/-- `disconnect` -/
def disconnect (session : Session) : Session :=
  { session with
    intentionalDisconnect := true
    sessionId := none
    sessionGeneration := session.sessionGeneration + 1
    connectInFlight := none
    roomRef := none
    heartbeatTimer := none
    disconnected := session.disconnected ++ session.roomRef.toList
    media := session.media.reset
    connectionStatus := getLiveKitConnectionStatus .disconnected false false }

/-- `unmuteAssistant` -/
def unmuteAssistant (session : Session) : Session :=
  if session.media.isUserSpeaking then session
  else
    let unmuted := { session with media := session.media.unmute }
    if session.media.audioElement ≠ none then unmuted.activateAssistantAudio else unmuted

/-- `handleSpeechEnd` -/
def handleSpeechEnd (session : Session) (isAgentSpeaking : Bool) : Session :=
  let ended := unmuteAssistant { session with media := { session.media with isUserSpeaking := false } }
  if session.roomRef ≠ none ∧ isAgentSpeaking = true then
    { ended with media := { ended.media with isBotSpeaking := true } }
  else ended

/-- `handleInterruption` -/
def handleInterruption (session : Session) : Session :=
  if session.media.isBotSpeaking then
    { session with
      messages := interruptLast session.messages
      media := { session.media with isBotSpeaking := false } }
  else session

def resume (session : Session) (index : Nat) (answer : Answer) : Session :=
  match session.pending[index]? with
  | some (.connect generation point) => session.resumeConnect index generation point answer
  | some (.activate generation element gainNode) =>
      session.resumeActivate index generation element gainNode
        (match answer with
        | .activated value => value
        | _ => false)
  | some (.trackSubscribed room track _) => session.resumeTrackSubscribed index room track
  | some (.trackActivated _ _) => session.suspend index .settled
  | _ => session

def step (session : Session) (action : Action) : Session :=
  match action with
  | .connect sessionId => session.connect sessionId
  | .disconnect => session.disconnect
  | .resume index answer => session.resume index answer
  | .room room event => session.receive room event
  | .element index event =>
      match session.playbacks[index]? with
      | some playback => session.elementEvent playback event
      | none => session
  | .heartbeat timer connected => session.heartbeat timer connected
  | .retryPlayback =>
      if session.media.playbackRetryPending && !session.media.isUserSpeaking then session.activateAssistantAudio else session
  | .speechStart => { session with media := { session.media with isUserSpeaking := true } }
  | .speechEnd isAgentSpeaking => session.handleSpeechEnd isAgentSpeaking
  | .unmuteAssistant => session.unmuteAssistant
  | .interruption => session.handleInterruption
  | .toggleMute =>
      if session.roomRef ≠ none then { session with media := { session.media with isMuted := !session.media.isMuted } }
      else session

def run (session : Session) (actions : List Action) : Session :=
  actions.foldl step session

end Session

end BrowserSession
end VoiceAssistants
