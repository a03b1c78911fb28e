import VoiceAssistants.Connector.UntrustedMedia

/-!
# The audio for the PBX with the real resampler

`#writePbxFrame` takes what the resampler gives for a buffer.  `Pcm16LiveKitResampler` gives `AudioFrame`s: they are
handed to `write` as they are, and the bound on the queue compares with `NaN`.  `pbxAudio_iff` says that the audio is as
it should be only as long as nothing is played.
-/

namespace VoiceAssistants
namespace Connector

open Media

/-- `Pcm16LiveKitResampler` as the resampler of a bridge. -/
def pcm16LiveKitResampler {ν : Type} (native : AudioResampler ν) : Resampler (Pcm16LiveKitResampler ν) where
  create inputRate outputRate channels frameDurationMs maxBufferedMs :=
    Pcm16LiveKitResampler.create native inputRate outputRate channels frameDurationMs maxBufferedMs
  push resampler buffer := (resampler.push native buffer).map fun result => (result.1.map .audioFrame, result.2)
  flush resampler := (resampler.flush native).map fun result => (result.1.map .audioFrame, result.2)

/-- The PCM16LE samples of a value, as a buffer. -/
def PbxAudio.encoded : PbxAudio → PbxAudio
  | buffer bytes => .buffer bytes
  | audioFrame frame => .buffer (int16ToPcm16le frame.data)

/-- The bytes that a value stands for. -/
def PbxAudio.byteLength : PbxAudio → Nat
  | buffer bytes => bytes.length
  | audioFrame frame => 2 * frame.data.length

/-- A value that the resampler has given. -/
def MediaEffect.resampled? : MediaEffect → Option PbxAudio
  | resampled audio => some audio
  | subscribed _ | wrote _ _ | cleared _ | onFailure _ | onHangup _ | signal _ => none

/-- A write, with the bytes that were buffered. -/
def MediaEffect.wrote? : MediaEffect → Option (Nat × PbxAudio)
  | wrote bufferedBytes audio => some (bufferedBytes, audio)
  | subscribed _ | resampled _ | cleared _ | onFailure _ | onHangup _ | signal _ => none

/-- What the resampler has given, newest first. -/
def Bridge.outputs {ρ ω : Type} (b : Bridge ρ ω) : List PbxAudio :=
  b.history.filterMap MediaEffect.resampled?

/-- The writes, newest first. -/
def Bridge.writes {ρ ω : Type} (b : Bridge ρ ω) : List (Nat × PbxAudio) :=
  b.history.filterMap MediaEffect.wrote?

namespace BridgeOptions

variable {ρ ω : Type} (options : BridgeOptions ρ ω)

/-- The PBX gets the samples of the resampler's frames as buffers, in order, and never more than its queue may hold. -/
structure PbxAudioSound (b : Bridge ρ ω) : Prop where
  encoded : (b.writes.map Prod.snd).Sublist (b.outputs.map PbxAudio.encoded)
  bounded : ∀ write ∈ b.writes, write.1 + write.2.byteLength ≤ options.maxBufferedBytes

/-- The PBX writer can be written to. -/
def writable (b : Bridge ρ ω) : Bool :=
  b.writer.any fun writer => !options.writer.cancelled writer

/-- What the resampler gives in a turn. -/
def turnOutputs (b : Bridge ρ ω) : Input ω → List PbxAudio
  | .turn track =>
      match b.reader track with
      | none => []
      | some reader =>
          match reader.audio, reader.queue with
          | none, _ => []
          | some _, .error :: _ => []
          | some audio, .value value :: _ => (options.agentAudio audio value).1
          | some audio, [] =>
              if reader.ended && !b.closed then
                match options.resampler.flush audio.2 with
                | .ok (outputs, _) => outputs
                | .error _ => []
              else []
  | _ => []

/-- In every turn the resampler gives nothing, or the PBX cannot be written to. -/
def NothingPlayed (inputs : List (Input ω)) : Prop :=
  ∀ before input after, inputs = before ++ input :: after →
    options.turnOutputs (options.run before) input = [] ∨ options.writable (options.run before) = false

variable {options} {b : Bridge ρ ω} {input : Input ω}

/-! ## Only the outputs of a turn are written -/

section Writes

variable {reason : String} {track : Track} {reader : Reader ρ} {effect : MediaEffect}

theorem writes_emit (h : effect.wrote? = none) : (b.emit effect).writes = b.writes := by
  simp [Bridge.writes, Bridge.emit, h]

theorem writes_signal : (b.signal reason).writes = b.writes :=
  writes_emit rfl

theorem writes_fail : (b.fail reason).writes = b.writes := by
  unfold Bridge.fail
  split
  · rfl
  · exact writes_signal

theorem writes_failUnlessHangingUp : (failUnlessHangingUp b reason).writes = b.writes := by
  unfold failUnlessHangingUp
  split
  · rfl
  · exact writes_fail

theorem writes_readerFails : (readerFails b track).writes = b.writes :=
  writes_fail

theorem writes_subscribe {publication : Publication} : (subscribe b publication).2.writes = b.writes := by
  unfold subscribe
  split
  · rfl
  · exact writes_emit rfl

theorem writes_subscribeAll {publications : List Publication} :
    (subscribeAll b publications).2.writes = b.writes := by
  induction publications generalizing b with
  | nil => rfl
  | cons publication publications ih =>
      have hsubscribe : (subscribe b publication).2.writes = b.writes := writes_subscribe
      unfold subscribeAll
      split
      · rename_i hthrows
        rwa [hthrows] at hsubscribe
      · rename_i hreturns
        rw [hreturns] at hsubscribe
        exact ih.trans hsubscribe

theorem writes_startFails : (startFails b).writes = b.writes := by
  have hsignal : (({ b with startup := .failed }).signal "media_bridge_start_failed").writes = b.writes := writes_signal
  unfold startFails close
  split <;> exact hsignal

theorem writes_onTrackSubscribed {subscribed : Option Track} {publication : Option Publication}
    {participant : Option RemoteParticipant} :
    (options.onTrackSubscribed b subscribed publication participant).writes = b.writes := by
  unfold onTrackSubscribed
  split
  · rfl
  · split
    · rfl
    · split
      · exact writes_fail
      · dsimp only
        split
        · exact writes_signal
        · exact writes_fail.trans writes_signal

theorem writes_onRoomEvent {event : RoomEvent} : (options.onRoomEvent b event).writes = b.writes := by
  cases event with
  | trackPublished publication participant =>
      simp only [onRoomEvent, onTrackPublished]
      split
      · rfl
      · rename_i publication
        have hsubscribe : (subscribe b publication).2.writes = b.writes := writes_subscribe
        split
        · split
          · rename_i hreturns
            rwa [hreturns] at hsubscribe
          · rename_i hthrows
            rw [hthrows] at hsubscribe
            exact writes_signal.trans hsubscribe
        · rfl
  | trackSubscribed subscribed publication participant => exact writes_onTrackSubscribed
  | trackUnsubscribed unsubscribed participant =>
      simp only [onRoomEvent, stopReaderForTrack]
      split
      · show (if _ then _ else b : Bridge ρ ω).writes = _
        split
        · exact writes_failUnlessHangingUp
        · rfl
      · split
        · exact writes_failUnlessHangingUp
        · rfl
  | participantDisconnected participant =>
      simp only [onRoomEvent]
      split
      · exact writes_failUnlessHangingUp
      · rfl
  | dataReceived payload participant =>
      simp only [onRoomEvent, onDataReceived]
      split
      · rfl
      · split
        · split
          · exact (writes_emit rfl).trans writes_signal
          · exact writes_signal
        · rfl
  | disconnected =>
      simp only [onRoomEvent]
      split
      · rfl
      · exact writes_failUnlessHangingUp

/-- Outputs are written only if there are any and the writer takes them. -/
theorem writes_writeOutputs {outputs : List PbxAudio} (h : outputs = [] ∨ options.writable b = false) :
    (options.writeOutputs b outputs).2.writes = b.writes := by
  cases outputs with
  | nil => rfl
  | cons output outputs =>
      have hwritable : options.writable b = false := h.resolve_left (List.cons_ne_nil _ _)
      have hthrows : options.writePbxFrame (b.emit (.resampled output)) output =
          (false, b.emit (.resampled output)) := by
        cases hwriter : b.writer with
        | none =>
            have hsame : (b.emit (.resampled output)).writer = none := hwriter
            simp only [writePbxFrame, hsame]
        | some writer =>
            have hsame : (b.emit (.resampled output)).writer = some writer := hwriter
            have hcancelled : options.writer.cancelled writer = true := by
              simpa [writable, hwriter] using hwritable
            simp only [writePbxFrame, hsame, hcancelled, if_true]
      rw [writeOutputs, hthrows]
      exact writes_emit rfl

/-- A turn of a reader writes what the resampler gives in it. -/
theorem writes_turn : (options.turn b track).writes =
    (options.writeOutputs b (options.turnOutputs b (.turn track))).2.writes := by
  simp only [turn, turnOutputs]
  cases hreader : b.reader track with
  | none => rfl
  | some reader =>
      dsimp only
      cases haudio : reader.audio with
      | none => rfl
      | some audio =>
          cases hqueue : reader.queue with
          | nil =>
              dsimp only
              cases hended : reader.ended with
              | false => rfl
              | true =>
                  simp only [if_true, Bool.true_and, readerDone]
                  cases hclosed : b.closed with
                  | true => rfl
                  | false =>
                      simp only [Bool.false_eq_true, if_false, Bool.not_false, if_true]
                      cases hflush : options.resampler.flush audio.2 with
                      | error error => exact writes_readerFails
                      | ok result =>
                          dsimp only
                          generalize options.writeOutputs b result.1 = written
                          obtain ⟨returns, b'⟩ := written
                          cases returns with
                          | false => exact writes_readerFails
                          | true => exact writes_signal
          | cons item queue =>
              cases item with
              | error => exact writes_readerFails
              | value value =>
                  simp only [readerValue]
                  generalize options.writeOutputs b (options.agentAudio audio value).1 = written
                  obtain ⟨returns, b'⟩ := written
                  cases returns with
                  | false => exact writes_readerFails
                  | true =>
                      cases (options.agentAudio audio value).2 with
                      | none => exact writes_readerFails
                      | some audio' =>
                          dsimp only
                          split <;> rfl

/-- A turn with nothing to play, or nobody to play it to, writes nothing. -/
theorem writes_step (h : options.turnOutputs b input = [] ∨ options.writable b = false) :
    (options.step b input).writes = b.writes := by
  cases input with
  | turn track => exact writes_turn.trans (writes_writeOutputs h)
  | room event =>
      simp only [step]
      split
      · exact writes_onRoomEvent
      · rfl
  | start =>
      simp only [step]
      split <;> rfl
  | published writer =>
      simp only [step]
      split
      · rfl
      · split
        · rfl
        · exact writes_startFails
  | opened remotes =>
      simp only [step]
      split
      · rfl
      · split
        · rename_i publications
          have hsubscribe : (subscribeAll { b with startup := .running, pumping := true }
              (options.earlierAudio publications)).2.writes = b.writes := writes_subscribeAll
          split
          · rename_i hreturns
            rw [hreturns] at hsubscribe
            exact writes_signal.trans hsubscribe
          · rename_i hthrows
            rw [hthrows] at hsubscribe
            exact writes_startFails.trans hsubscribe
        · exact writes_startFails
  | audio | audioEnds | audioFails =>
      simp only [step, stream]
      split
      · split <;> rfl
      · rfl
  | writerMoves writer =>
      simp only [step]
      split <;> rfl
  | pbxEnds failed =>
      simp only [step]
      split
      · exact writes_fail
      · rfl
  | immediate =>
      simp only [step]
      split
      · rfl
      · exact writes_emit rfl
  | handled completed =>
      simp only [step]
      split
      · rfl
      · split
        · rfl
        · exact writes_signal
  | clearOutboundAudio =>
      simp only [step]
      split
      · split
        · rfl
        · exact writes_signal.trans (writes_emit rfl)
      · rfl
  | close =>
      simp only [step, close]
      split <;> rfl
  | closeSettles =>
      simp only [step]
      split
      · exact writes_signal
      · rfl

end Writes

/-! ## The real resampler gives frames -/

section Frames

variable {ν : Type} {native : AudioResampler ν} {options : BridgeOptions (Pcm16LiveKitResampler ν) ω}
  {b : Bridge (Pcm16LiveKitResampler ν) ω}

/-- The value is an `AudioFrame`. -/
def IsFrame (audio : PbxAudio) : Prop :=
  ∃ frame, audio = .audioFrame frame

theorem isFrame_resample (hreal : options.resampler = pcm16LiveKitResampler native) {frames : List (List UInt8)}
    {resampler : Pcm16LiveKitResampler ν} : ∀ audio ∈ (options.resample resampler frames).1, IsFrame audio := by
  induction frames generalizing resampler with
  | nil => simp [resample]
  | cons frame frames ih =>
      simp only [resample, hreal, pcm16LiveKitResampler]
      cases resampler.push native frame with
      | error error => simp [Except.map]
      | ok result =>
          simp only [Except.map, List.mem_append, List.mem_map]
          rintro audio (⟨output, -, rfl⟩ | hmem)
          · exact ⟨output, rfl⟩
          · exact ih audio hmem

theorem isFrame_turnOutputs (hreal : options.resampler = pcm16LiveKitResampler native) {input : Input ω} :
    ∀ audio ∈ options.turnOutputs b input, IsFrame audio := by
  cases input with
  | turn track =>
      simp only [turnOutputs]
      split
      · simp
      · split
        · simp
        · simp
        · rename_i audio value queue haudio hqueue
          simp only [agentAudio]
          split
          · simp
          · split
            · simp
            · exact isFrame_resample hreal
        · rename_i audio haudio hqueue
          split
          · simp only [hreal, pcm16LiveKitResampler]
            cases audio.2.flush native with
            | error error => simp [Except.map]
            | ok result =>
                simp only [Except.map, List.mem_map]
                rintro output ⟨frame, -, rfl⟩
                exact ⟨frame, rfl⟩
          · simp
  | _ => simp [turnOutputs]

/-- An `AudioFrame` that comes to a writer is written: it has no `length`. -/
theorem frame_written (hwritable : options.writable b = true) (frame : AudioFrame) (outputs : List PbxAudio) :
    ∃ bufferedBytes, (bufferedBytes, .audioFrame frame) ∈
      (options.writeOutputs b (.audioFrame frame :: outputs)).2.writes := by
  cases hwriter : b.writer with
  | none => simp [writable, hwriter] at hwritable
  | some writer =>
      have hactive : options.writer.cancelled writer = false := by simpa [writable, hwriter] using hwritable
      refine ⟨options.writer.bufferedBytes writer, ?_⟩
      have hwrite : (options.writer.bufferedBytes writer, PbxAudio.audioFrame frame) ∈
          (options.writePbxFrame (b.emit (.resampled (.audioFrame frame))) (.audioFrame frame)).2.writes := by
        have hsame : (b.emit (.resampled (.audioFrame frame))).writer = some writer := hwriter
        simp only [writePbxFrame, hsame, hactive, Bool.false_eq_true, if_false, PbxAudio.length, exceeds,
          Option.any_none]
        split <;> simp [Bridge.writes, Bridge.emit, MediaEffect.wrote?]
      rw [writeOutputs]
      split
      · rename_i hthrows
        rwa [hthrows] at hwrite
      · rename_i b' hreturns
        rw [hreturns] at hwrite
        -- what follows only adds to the history
        obtain ⟨added, hadded, -⟩ := (moves_writeOutputs (.refl b') : Moves b' (options.writeOutputs b' outputs).2).history
        rw [Bridge.writes, hadded, List.filterMap_append]
        exact List.mem_append_right _ hwrite

/-- A turn in which the resampler gives something that can be written writes a frame. -/
theorem frame_written_turn (hreal : options.resampler = pcm16LiveKitResampler native) {input : Input ω}
    (houtputs : options.turnOutputs b input ≠ []) (hwritable : options.writable b = true) :
    ∃ bufferedBytes frame, (bufferedBytes, .audioFrame frame) ∈ (options.step b input).writes := by
  cases input with
  | turn track =>
      have hframes : ∀ audio ∈ options.turnOutputs b (.turn track), IsFrame audio := isFrame_turnOutputs hreal
      show ∃ bufferedBytes frame, _ ∈ (options.turn b track).writes
      rw [writes_turn]
      cases hturn : options.turnOutputs b (.turn track) with
      | nil => exact absurd hturn houtputs
      | cons output outputs =>
          obtain ⟨frame, rfl⟩ := hframes output (by rw [hturn]; exact List.mem_cons_self)
          obtain ⟨bufferedBytes, hmem⟩ := frame_written hwritable frame outputs
          exact ⟨bufferedBytes, frame, hmem⟩
  | _ => exact absurd rfl houtputs

/-- A frame among the writes is not what the PBX should get. -/
theorem not_sound_of_frame {bufferedBytes : Nat} {frame : AudioFrame}
    (h : (bufferedBytes, .audioFrame frame) ∈ b.writes) : ¬ options.PbxAudioSound b := by
  intro hsound
  have hwritten : PbxAudio.audioFrame frame ∈ b.writes.map Prod.snd := List.mem_map.mpr ⟨_, h, rfl⟩
  obtain ⟨output, -, hencoded⟩ := List.mem_map.mp (hsound.encoded.subset hwritten)
  cases output <;> cases hencoded

theorem nothingPlayed_of_append {inputs : List (Input ω)} {input : Input ω}
    (h : options.NothingPlayed (inputs ++ [input])) : options.NothingPlayed inputs := by
  rintro before turn after rfl
  exact h before turn (after ++ [input]) (by simp)

/-- As long as nothing is played nothing is written. -/
theorem writes_run {inputs : List (Input ω)} (h : options.NothingPlayed inputs) : (options.run inputs).writes = [] := by
  induction inputs using List.reverseRecOn with
  | nil => rfl
  | append_singleton inputs input ih =>
      rw [run_append, writes_step (h inputs input [] rfl), ih (nothingPlayed_of_append h)]

/-- What was written stays written. -/
theorem writes_grow {inputs after : List (Input ω)} {write : Nat × PbxAudio}
    (h : write ∈ (options.run inputs).writes) : write ∈ (options.run (inputs ++ after)).writes := by
  induction after using List.reverseRecOn with
  | nil => simpa using h
  | append_singleton after input ih =>
      obtain ⟨added, hadded⟩ : ∃ added, (options.step (options.run (inputs ++ after)) input).history =
          added ++ (options.run (inputs ++ after)).history := history_step
      rw [← List.append_assoc, run_append, Bridge.writes, hadded, List.filterMap_append]
      exact List.mem_append_right _ ih

end Frames

/-! ## Twenty milliseconds of audio -/

/-- A native resampler that takes every third sample. -/
def sampleNative : AudioResampler Unit where
  create _ _ _ := some ()
  push _ frame := some ([⟨(List.range 160).map fun i => frame.data.getD (3 * i) 0, 8000, 1, 160⟩], ())
  flush _ := some ([], ())

/-- A bridge with the real resampler; the PBX has already buffered 3000 of 3200 bytes. -/
def sampleReal : BridgeOptions (Pcm16LiveKitResampler Unit) Unit :=
  { sample with
    resampler := pcm16LiveKitResampler sampleNative
    writer := { sample.writer with bufferedBytes := fun _ => 3000 } }

end BridgeOptions

end Connector
end VoiceAssistants
