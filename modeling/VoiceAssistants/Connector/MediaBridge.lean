import VoiceAssistants.Json
import VoiceAssistants.Media.Pcm16

/-!
# The media bridge (`threecx-livekit-media-bridge.mjs`)

One `ThreeCxLiveKitMediaBridge`: the handlers of the room's events, the loops that read the agent's audio, and `#fail`.
An input is one turn of the event loop; one that cannot happen does nothing.

* `start` registers the handlers; `published` and `opened` settle its two awaits, and `close` takes the handlers off.
* `room` is an event of the LiveKit room.
* `audio`, `audioEnds` and `audioFails` are the agent's stream of a track.  Its loop is always at `reader.read()`, so
  the first item is already handed to it; a cancelled stream gives that item and then ends.  `turn` lets the loop go on.
* `immediate` runs what `setImmediate` has scheduled, `handled` settles the failure handler's promise, and
  `closeSettles` is the end of `close`.
* `writerMoves` and `pbxEnds` are the PBX: its writer plays or is cancelled, and the caller's stream ends or fails.

The caller's audio is left out but for the way its pump ends.  The verifier, the resampler, the PBX writer and the
stream's constructor are parameters, as they are in the source.
-/

namespace VoiceAssistants
namespace Connector

open Collections Media

/-- `ParticipantKind` of LiveKit. -/
inductive ParticipantKind
  | standard
  | ingress
  | egress
  | sip
  | agent
  deriving DecidableEq, Repr

/-- A remote participant. -/
structure RemoteParticipant where
  identity : String
  kind : ParticipantKind
  deriving DecidableEq, Repr

/-- A publication of a remote track.  `setSubscribed` is `none` if it has no such method, and tells else whether a call
of it returns. -/
structure Publication where
  id : Nat
  kind : String
  setSubscribed : Option Bool
  deriving DecidableEq, Repr

/-- A remote track, as a key of a `Map`. -/
abbrev Track := Nat

/-- An event of the room.  An argument is `none` where it is missing.  The payload of `dataReceived` is the JSON object
that it decodes to, if it does. -/
inductive RoomEvent
  | trackPublished (publication : Option Publication) (participant : Option RemoteParticipant)
  | trackSubscribed (track : Option Track) (publication : Option Publication) (participant : Option RemoteParticipant)
  | trackUnsubscribed (track : Option Track) (participant : Option RemoteParticipant)
  | participantDisconnected (participant : Option RemoteParticipant)
  | dataReceived (payload : Option JsonObject) (participant : Option RemoteParticipant)
  | disconnected

/-- A value of the agent's audio stream. -/
structure AgentFrame where
  sampleRate : Nat
  channels : Nat
  data : List Int16
  deriving DecidableEq, Repr

/-- What a stream gives to its reader. -/
inductive StreamItem
  | value (frame : AgentFrame)
  | error
  deriving DecidableEq, Repr

/-- A value that a resampler gives: a `Buffer`, or an `AudioFrame`. -/
inductive PbxAudio
  | buffer (bytes : List UInt8)
  | audioFrame (frame : AudioFrame)
  deriving DecidableEq, Repr

/-- `value.length`; `none` is `undefined`. -/
def PbxAudio.length : PbxAudio → Option Nat
  | buffer bytes => some bytes.length
  | audioFrame _ => none

/-- The injected resampler, of one direction of the audio. -/
structure Resampler (ρ : Type) where
  create : (inputRate outputRate channels frameDurationMs maxBufferedMs : Nat) → Except String ρ
  push : ρ → List UInt8 → Except String (List PbxAudio × ρ)
  flush : ρ → Except String (List PbxAudio × ρ)

/-- The writer of a PBX participant.  `write` may throw. -/
structure PbxWriter (ω : Type) where
  bufferedBytes : ω → Nat
  cancelled : ω → Bool
  write : ω → PbxAudio → Option ω
  clear : ω → ω
  cancel : ω → ω

def PBX_RATE : Nat := 8000

def LIVEKIT_RATE : Nat := 24000

def CHANNELS : Nat := 1

def FRAME_MS : Nat := 20

/-- The arguments of the constructor that has accepted them.  `audioStream` tells whether `new AudioStream(track)`
succeeds. -/
structure BridgeOptions (ρ ω : Type) where
  dispatchId : String
  isAuthorizedAgent : RemoteParticipant → String → Option Bool
  hasOnHangup : Bool
  maxBufferedMs : Nat
  bounded : FRAME_MS ≤ maxBufferedMs ∧ maxBufferedMs ≤ 2000
  audioStream : Track → Bool
  resampler : Resampler ρ
  writer : PbxWriter ω

/-- The reader of a track.  `audio` is `none` if its loop has never begun. -/
structure Reader (ρ : Type) where
  queue : List StreamItem
  ended : Bool
  audio : Option (Pcm16FrameAssembler × ρ)

/-- What the bridge does outside: it subscribes, writes to the PBX, clears its queue, and calls the handlers.  A write
and a cleared queue keep what `writer.bufferedBytes` was. -/
inductive MediaEffect
  | subscribed (publication : Nat)
  | resampled (audio : PbxAudio)
  | wrote (bufferedBytes : Nat) (audio : PbxAudio)
  | cleared (bufferedBytes : Nat)
  | onFailure (reason : String)
  | onHangup (reason : JsonValue)
  | signal (reason : String)
  deriving DecidableEq, Repr

/-- How far `start` is. -/
inductive Startup
  | idle
  | publishing
  | opening
  | running
  | failed
  deriving DecidableEq, Repr

/-- The bridge.  The history is newest first. -/
structure Bridge (ρ ω : Type) where
  startup : Startup
  closed : Bool
  released : Bool
  failed : Bool
  hangingUp : Bool
  writer : Option ω
  pumping : Bool
  activeReaders : List (Track × Reader ρ)
  scheduled : List String
  handling : Nat
  history : List MediaEffect

namespace Bridge

variable {ρ ω : Type}

/-- After the constructor. -/
def initial : Bridge ρ ω where
  startup := .idle
  closed := false
  released := false
  failed := false
  hangingUp := false
  writer := none
  pumping := false
  activeReaders := []
  scheduled := []
  handling := 0
  history := []

/-- The handlers are registered. -/
def listening (b : Bridge ρ ω) : Bool :=
  b.startup ≠ .idle && !b.closed

def emit (b : Bridge ρ ω) (effect : MediaEffect) : Bridge ρ ω :=
  { b with history := effect :: b.history }

/-- `#signal`. -/
def signal (b : Bridge ρ ω) (reason : String) : Bridge ρ ω :=
  b.emit (.signal reason)

/-- `#fail`. -/
def fail (b : Bridge ρ ω) (reason : String) : Bridge ρ ω :=
  if b.failed || b.closed then b
  else ({ b with failed := true, scheduled := b.scheduled ++ [reason] }).signal reason

/-- `activeReaders.get(track)`. -/
def reader (b : Bridge ρ ω) (track : Track) : Option (Reader ρ) :=
  (b.activeReaders.find? fun entry => entry.1 = track).map Prod.snd

/-- `activeReaders.set(track, reader)`. -/
def setReader (b : Bridge ρ ω) (track : Track) (reader : Reader ρ) : Bridge ρ ω :=
  { b with
    activeReaders :=
      if b.activeReaders.any fun entry => entry.1 = track then
        b.activeReaders.map fun entry => if entry.1 = track then (track, reader) else entry
      else b.activeReaders ++ [(track, reader)] }

/-- `activeReaders.delete(track)`. -/
def deleteReader (b : Bridge ρ ω) (track : Track) : Bridge ρ ω :=
  { b with activeReaders := b.activeReaders.filter fun entry => entry.1 ≠ track }

end Bridge

/-- `reader.cancel()`. -/
def Reader.cancel {ρ : Type} (reader : Reader ρ) : Reader ρ :=
  { reader with queue := reader.queue.take 1, ended := true }

/-- The stream fails: what nobody has taken is gone. -/
def Reader.break {ρ : Type} (reader : Reader ρ) : Reader ρ :=
  { reader with queue := reader.queue.take 1 ++ [.error], ended := true }

/-- Whether a JSON value counts as true in JavaScript. -/
def jsTruthy : JsonValue → Bool
  | .null => false
  | .bool value => value
  | .text value => value ≠ ""
  | .texts _ => true
  | .other json => !(["0", "0.0", "-0.0"].contains json)

/-- `data.reason || "agent_completed"`. -/
def hangupReason (data : JsonObject) : JsonValue :=
  match data.get "reason" with
  | some reason => if jsTruthy reason then reason else .text "agent_completed"
  | none => .text "agent_completed"

/-- `data?.type === "call_hangup"`. -/
def isHangup (payload : Option JsonObject) : Bool :=
  payload.any fun data => data.text? "type" = some "call_hangup"

/-- `writer.bufferedBytes + buffer.length > maxBufferedBytes`, where `undefined` makes the sum `NaN`. -/
def exceeds (bufferedBytes : Nat) (length : Option Nat) (maxBufferedBytes : Nat) : Bool :=
  length.any fun length => bufferedBytes + length > maxBufferedBytes

/-- `createDispatchAgentVerifier` (`livekit-dispatch-verifier.mjs`). -/
def createDispatchAgentVerifier (dispatchId participantIdentity : String) (participant : RemoteParticipant)
    (candidateDispatchId : String) : Option Bool :=
  some (candidateDispatchId = dispatchId && participant.identity = participantIdentity && participant.kind = .agent)

namespace BridgeOptions

variable {ρ ω : Type} (options : BridgeOptions ρ ω)

/-- `#isAuthorized`. -/
def isAuthorized (participant : Option RemoteParticipant) : Bool :=
  participant.any fun participant => options.isAuthorizedAgent participant options.dispatchId = some true

/-- The bound in `#writePbxFrame`. -/
def maxBufferedBytes : Nat :=
  PBX_RATE * CHANNELS * 2 * options.maxBufferedMs / 1000

/-! ## The agent's audio -/

/-- `for (const frame of frames) for (const output of resampler.push(frame))`: the outputs up to an exception, and the
resampler if there is none. -/
def resample : ρ → List (List UInt8) → List PbxAudio × Option ρ
  | resampler, [] => ([], some resampler)
  | resampler, frame :: frames =>
      match options.resampler.push resampler frame with
      | .error _ => ([], none)
      | .ok (outputs, resampler) =>
          let rest := resample resampler frames
          (outputs ++ rest.1, rest.2)

/-- One value of the agent's stream: the outputs up to an exception, and what the next value meets if there is none. -/
def agentAudio (audio : Pcm16FrameAssembler × ρ) (value : AgentFrame) :
    List PbxAudio × Option (Pcm16FrameAssembler × ρ) :=
  if value.sampleRate ≠ LIVEKIT_RATE ∨ value.channels ≠ CHANNELS then ([], none)
  else
    match audio.1.push (int16ToPcm16le value.data) with
    | .error _ => ([], none)
    | .ok (frames, assembler) =>
        let resampled := options.resample audio.2 frames
        (resampled.1, resampled.2.map fun resampler => (assembler, resampler))

/-- `#writePbxFrame`; `false` if it throws. -/
def writePbxFrame (b : Bridge ρ ω) (output : PbxAudio) : Bool × Bridge ρ ω :=
  match b.writer with
  | none => (false, b)
  | some writer =>
      if options.writer.cancelled writer then (false, b)
      else
        let bufferedBytes := options.writer.bufferedBytes writer
        if exceeds bufferedBytes output.length options.maxBufferedBytes then
          (false, (({ b with writer := some (options.writer.clear writer) }).emit (.cleared bufferedBytes)).fail
            "pbx_audio_queue_overflow")
        else
          match options.writer.write writer output with
          | none => (false, b.emit (.wrote bufferedBytes output))
          | some writer => (true, ({ b with writer := some writer }).emit (.wrote bufferedBytes output))

/-- The outputs of a resampler are written one after the other, until one throws. -/
def writeOutputs (b : Bridge ρ ω) : List PbxAudio → Bool × Bridge ρ ω
  | [] => (true, b)
  | output :: outputs =>
      match options.writePbxFrame (b.emit (.resampled output)) output with
      | (false, b) => (false, b)
      | (true, b) => writeOutputs b outputs

/-- The loop ends with an exception. -/
def readerFails (b : Bridge ρ ω) (track : Track) : Bridge ρ ω :=
  (b.fail "agent_audio_stream_failed").deleteReader track

/-- The stream is done. -/
def readerDone (b : Bridge ρ ω) (track : Track) (resampler : ρ) : Bridge ρ ω :=
  if b.closed then b.deleteReader track
  else
    match options.resampler.flush resampler with
    | .error _ => readerFails b track
    | .ok (outputs, _) =>
        match options.writeOutputs b outputs with
        | (false, b) => readerFails b track
        | (true, b) => (b.signal "agent_audio_stream_ended").deleteReader track

/-- The reader of a track has got a value. -/
def readerValue (b : Bridge ρ ω) (track : Track) (reader : Reader ρ) (audio : Pcm16FrameAssembler × ρ)
    (value : AgentFrame) : Bridge ρ ω :=
  let read := options.agentAudio audio value
  match options.writeOutputs b read.1, read.2 with
  | (true, b), some audio =>
      if b.closed then b.deleteReader track
      else b.setReader track { reader with queue := reader.queue.tail, audio := some audio }
  | (_, b), _ => readerFails b track

/-- One turn of the loop that reads a track. -/
def turn (b : Bridge ρ ω) (track : Track) : Bridge ρ ω :=
  match b.reader track with
  | none => b
  | some reader =>
      match reader.audio, reader.queue with
      | none, _ => b
      | some _, .error :: _ => readerFails b track
      | some audio, .value value :: _ => options.readerValue b track reader audio value
      | some audio, [] => if reader.ended then options.readerDone b track audio.2 else b

/-! ## The handlers -/

/-- `publication?.kind === "audio"`. -/
def isAudio (publication : Option Publication) : Bool :=
  publication.any fun publication => publication.kind = "audio"

/-- `publication.setSubscribed?.(true)`; `false` if it throws. -/
def subscribe (b : Bridge ρ ω) (publication : Publication) : Bool × Bridge ρ ω :=
  match publication.setSubscribed with
  | none => (true, b)
  | some returns => (returns, b.emit (.subscribed publication.id))

/-- `#onTrackPublished`. -/
def onTrackPublished (b : Bridge ρ ω) (publication : Option Publication) (participant : Option RemoteParticipant) :
    Bridge ρ ω :=
  match publication with
  | none => b
  | some publication =>
      if options.isAuthorized participant && publication.kind = "audio" then
        match subscribe b publication with
        | (true, b) => b
        | (false, b) => b.signal "agent_audio_subscribe_failed"
      else b

/-- The assembler and the resampler of a new reader; `none` if a constructor throws. -/
def agentPath : Option (Pcm16FrameAssembler × ρ) :=
  match Pcm16FrameAssembler.create LIVEKIT_RATE CHANNELS FRAME_MS options.maxBufferedMs,
    options.resampler.create LIVEKIT_RATE PBX_RATE CHANNELS FRAME_MS options.maxBufferedMs with
  | .ok assembler, .ok resampler => some (assembler, resampler)
  | _, _ => none

/-- `#onTrackSubscribed`, up to its loop. -/
def onTrackSubscribed (b : Bridge ρ ω) (track : Option Track) (publication : Option Publication)
    (participant : Option RemoteParticipant) : Bridge ρ ω :=
  match track with
  | none => b
  | some track =>
      if b.closed || !isAudio publication || (b.reader track).isSome || !options.isAuthorized participant then b
      else if !options.audioStream track then b.fail "agent_audio_stream_failed"
      else
        let b := (b.setReader track ⟨[], false, options.agentPath⟩).signal "agent_audio_subscribed"
        if options.agentPath.isSome then b else b.fail "agent_audio_stream_failed"

/-- `#stopReaderForTrack`. -/
def stopReaderForTrack (b : Bridge ρ ω) (track : Option Track) : Bridge ρ ω :=
  match track.bind fun track => (b.reader track).map fun reader => (track, reader) with
  | some (track, reader) => b.setReader track reader.cancel
  | none => b

/-- A loss of the agent or of the room is a failure, unless the bridge is hanging up. -/
def failUnlessHangingUp (b : Bridge ρ ω) (reason : String) : Bridge ρ ω :=
  if b.hangingUp then b else b.fail reason

/-- `onDataReceived`. -/
def onDataReceived (b : Bridge ρ ω) (payload : Option JsonObject) : Bridge ρ ω :=
  match payload with
  | none => b
  | some data =>
      if data.text? "type" = some "call_hangup" then
        let b := ({ b with hangingUp := true }).signal "agent_hangup_signaled"
        if options.hasOnHangup then b.emit (.onHangup (hangupReason data)) else b
      else b

/-- The handlers of the room's events. -/
def onRoomEvent (b : Bridge ρ ω) : RoomEvent → Bridge ρ ω
  | .trackPublished publication participant => options.onTrackPublished b publication participant
  | .trackSubscribed track publication participant => options.onTrackSubscribed b track publication participant
  | .trackUnsubscribed track participant =>
      let b := if options.isAuthorized participant then failUnlessHangingUp b "agent_audio_unsubscribed" else b
      stopReaderForTrack b track
  | .participantDisconnected participant =>
      if options.isAuthorized participant then failUnlessHangingUp b "verified_agent_disconnected" else b
  | .dataReceived payload _ => options.onDataReceived b payload
  | .disconnected => if b.closed then b else failUnlessHangingUp b "livekit_room_disconnected"

/-! ## The life of the bridge -/

/-- `close`, up to its first await; the readers that it cancels end. -/
def close (b : Bridge ρ ω) : Bridge ρ ω :=
  if b.closed then b
  else
    { b with
      closed := true
      activeReaders := b.activeReaders.map fun entry => (entry.1, entry.2.cancel) }

/-- The `catch` of `start`. -/
def startFails (b : Bridge ρ ω) : Bridge ρ ω :=
  close (({ b with startup := .failed }).signal "media_bridge_start_failed")

/-- The audio publications of the authorized participants that were there before. -/
def earlierAudio (remotes : List (RemoteParticipant × List Publication)) : List Publication :=
  ((remotes.filter fun remote => options.isAuthorized (some remote.1)).flatMap Prod.snd).filter fun publication =>
    publication.kind = "audio"

/-- They are subscribed to one after the other, until one throws. -/
def subscribeAll (b : Bridge ρ ω) : List Publication → Bool × Bridge ρ ω
  | [] => (true, b)
  | publication :: publications =>
      match subscribe b publication with
      | (false, b) => (false, b)
      | (true, b) => subscribeAll b publications

end BridgeOptions

/-- One turn of the event loop. -/
inductive Input (ω : Type)
  | start
  | published (writer : Option ω)
  | opened (remotes : Option (List (RemoteParticipant × List Publication)))
  | room (event : RoomEvent)
  | audio (track : Track) (value : AgentFrame)
  | audioEnds (track : Track)
  | audioFails (track : Track)
  | turn (track : Track)
  | writerMoves (writer : ω)
  | pbxEnds (failed : Bool)
  | immediate
  | handled (completed : Bool)
  | clearOutboundAudio
  | close
  | closeSettles

namespace BridgeOptions

variable {ρ ω : Type} (options : BridgeOptions ρ ω)

/-- The stream of a track gives something to its reader. -/
def stream (b : Bridge ρ ω) (track : Track) (change : Reader ρ → Reader ρ) : Bridge ρ ω :=
  match b.reader track with
  | some reader => if reader.ended then b else b.setReader track (change reader)
  | none => b

def step (b : Bridge ρ ω) : Input ω → Bridge ρ ω
  | .start => if b.closed || b.startup ≠ .idle then b else { b with startup := .publishing }
  | .published writer =>
      if b.startup ≠ .publishing then b
      else
        match writer with
        | some writer => { b with startup := .opening, writer := some writer }
        | none => startFails b
  | .opened remotes =>
      if b.startup ≠ .opening then b
      else
        match remotes with
        | some remotes =>
            match subscribeAll { b with startup := .running, pumping := true } (options.earlierAudio remotes) with
            | (true, b) => b.signal "media_bridge_started"
            | (false, b) => startFails b
        | none => startFails b
  | .room event => if b.listening then options.onRoomEvent b event else b
  | .audio track value => stream b track fun reader => { reader with queue := reader.queue ++ [.value value] }
  | .audioEnds track => stream b track fun reader => { reader with ended := true }
  | .audioFails track => stream b track Reader.break
  | .turn track => options.turn b track
  | .writerMoves writer => if b.writer.isSome then { b with writer := some writer } else b
  | .pbxEnds failed =>
      if b.pumping then
        ({ b with pumping := false }).fail (if failed then "pbx_audio_stream_failed" else "pbx_audio_stream_ended")
      else b
  | .immediate =>
      match b.scheduled with
      | [] => b
      | reason :: rest => ({ b with scheduled := rest, handling := b.handling + 1 }).emit (.onFailure reason)
  | .handled completed =>
      if b.handling = 0 then b
      else
        let b := { b with handling := b.handling - 1 }
        if completed then b else b.signal "pbx_failure_handler_failed"
  | .clearOutboundAudio =>
      match b.writer with
      | some writer =>
          if b.closed || options.writer.cancelled writer then b
          else
            (({ b with writer := some (options.writer.clear writer) }).emit
              (.cleared (options.writer.bufferedBytes writer))).signal "outbound_audio_cleared"
      | none => b
  | .close => close b
  | .closeSettles =>
      if b.closed && !b.released then
        ({ b with released := true, writer := b.writer.map options.writer.cancel, activeReaders := [] }).signal
          "media_bridge_closed"
      else b

/-- The state after some inputs. -/
def run (inputs : List (Input ω)) : Bridge ρ ω :=
  inputs.foldl options.step .initial

end BridgeOptions

end Connector
end VoiceAssistants
