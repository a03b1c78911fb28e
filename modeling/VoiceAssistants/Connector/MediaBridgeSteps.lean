import VoiceAssistants.Connector.MediaBridge

/-!
# What a turn of the media bridge changes

`step_cases` says once what a turn can do.  Nearly every turn is quiet: it may raise the failure, and it leaves
`hangingUp` as it is and calls no handler (`QuietTurn`).  The other two are a `call_hangup` packet that is heard, and the run
of what `setImmediate` has.  QuietTurn turns that also leave the life of the bridge as it is only move audio (`Moves`).
-/

namespace VoiceAssistants
namespace Connector

open Media

/-- The effect is no call of a handler. -/
def MediaEffect.inner : MediaEffect → Bool
  | onFailure _ | onHangup _ => false
  | subscribed _ | resampled _ | wrote _ _ | cleared _ | signal _ => true

section Moves

variable {ρ ω : Type}

/-- The failure may be raised, and no handler is called. -/
structure QuietTurn (b b' : Bridge ρ ω) : Prop where
  hangingUp : b'.hangingUp = b.hangingUp
  failure : b'.failed = b.failed ∧ b'.scheduled = b.scheduled ∨
    b.failed = false ∧ b'.failed = true ∧ ∃ reason, b'.scheduled = b.scheduled ++ [reason]
  history : ∃ added, b'.history = added ++ b.history ∧ ∀ effect ∈ added, effect.inner = true

/-- The life of the bridge goes on as well. -/
structure Moves (b b' : Bridge ρ ω) : Prop extends QuietTurn b b' where
  startup : b'.startup = b.startup
  closed : b'.closed = b.closed

variable {b b' b'' : Bridge ρ ω}

/-- The failure is raised once. -/
theorem QuietTurn.trans (h : QuietTurn b b') (h' : QuietTurn b' b'') : QuietTurn b b'' where
  hangingUp := h'.hangingUp.trans h.hangingUp
  failure := by
    rcases h.failure with ⟨hfailed, hscheduled⟩ | ⟨hunfailed, hfailed, reason, hscheduled⟩
    · rw [← hfailed, ← hscheduled]
      exact h'.failure
    · right
      rcases h'.failure with ⟨hfailed', hscheduled'⟩ | ⟨hunfailed', -, -⟩
      · exact ⟨hunfailed, hfailed'.trans hfailed, reason, hscheduled'.trans hscheduled⟩
      · rw [hfailed] at hunfailed'
        cases hunfailed'
  history := by
    obtain ⟨added, hadded, hinner⟩ := h.history
    obtain ⟨added', hadded', hinner'⟩ := h'.history
    refine ⟨added' ++ added, by rw [hadded', hadded, List.append_assoc], ?_⟩
    intro effect hmem
    rcases List.mem_append.mp hmem with hmem | hmem
    · exact hinner' effect hmem
    · exact hinner effect hmem

/-- Only other fields change. -/
theorem QuietTurn.of_same (hhanging : b'.hangingUp = b.hangingUp) (hfailed : b'.failed = b.failed)
    (hscheduled : b'.scheduled = b.scheduled) (hhistory : b'.history = b.history) : QuietTurn b b' where
  hangingUp := hhanging
  failure := .inl ⟨hfailed, hscheduled⟩
  history := ⟨[], hhistory, fun _ h => nomatch h⟩

theorem Moves.of_same (hstartup : b'.startup = b.startup) (hclosed : b'.closed = b.closed)
    (hhanging : b'.hangingUp = b.hangingUp) (hfailed : b'.failed = b.failed) (hscheduled : b'.scheduled = b.scheduled)
    (hhistory : b'.history = b.history) : Moves b b' where
  toQuietTurn := .of_same hhanging hfailed hscheduled hhistory
  startup := hstartup
  closed := hclosed

theorem Moves.refl (b : Bridge ρ ω) : Moves b b :=
  .of_same rfl rfl rfl rfl rfl rfl

theorem Moves.trans (h : Moves b b') (h' : Moves b' b'') : Moves b b'' where
  toQuietTurn := h.toQuietTurn.trans h'.toQuietTurn
  startup := h'.startup.trans h.startup
  closed := h'.closed.trans h.closed

theorem Moves.emit {effect : MediaEffect} (hinner : effect.inner = true) (h : Moves b b') : Moves b (b'.emit effect) := by
  apply h.trans
  constructor
  · constructor
    · rfl
    · exact .inl ⟨rfl, rfl⟩
    · exact ⟨[effect], rfl, fun other hmem => by rw [List.mem_singleton.mp hmem, hinner]⟩
  · rfl
  · rfl

theorem Moves.signal {reason : String} (h : Moves b b') : Moves b (b'.signal reason) :=
  h.emit rfl

theorem Moves.fail {reason : String} (h : Moves b b') : Moves b (b'.fail reason) := by
  unfold Bridge.fail
  split
  · exact h
  · rename_i hopen
    simp only [Bool.or_eq_true, not_or, Bool.not_eq_true] at hopen
    apply h.trans
    constructor
    · constructor
      · rfl
      · exact .inr ⟨hopen.1, rfl, reason, rfl⟩
      · exact ⟨[.signal reason], rfl, fun other hmem => by rw [List.mem_singleton.mp hmem]; rfl⟩
    · rfl
    · rfl

theorem Moves.setReader {track : Track} {reader : Reader ρ} (h : Moves b b') : Moves b (b'.setReader track reader) :=
  h.trans (.of_same rfl rfl rfl rfl rfl rfl)

theorem Moves.deleteReader {track : Track} (h : Moves b b') : Moves b (b'.deleteReader track) :=
  h.trans (.of_same rfl rfl rfl rfl rfl rfl)

theorem Moves.setWriter {writer : Option ω} (h : Moves b b') : Moves b { b' with writer := writer } :=
  h.trans (.of_same rfl rfl rfl rfl rfl rfl)

end Moves

namespace BridgeOptions

variable {ρ ω : Type} {options : BridgeOptions ρ ω} {b b' : Bridge ρ ω}

/-! ## The agent's audio -/

theorem moves_writePbxFrame {output : PbxAudio} (h : Moves b b') : Moves b (options.writePbxFrame b' output).2 := by
  unfold writePbxFrame
  split
  · exact h
  · split
    · exact h
    · dsimp only
      split
      · exact (h.setWriter.emit rfl).fail
      · split
        · exact h.emit rfl
        · exact h.setWriter.emit rfl

theorem moves_writeOutputs {outputs : List PbxAudio} (h : Moves b b') : Moves b (options.writeOutputs b' outputs).2 := by
  induction outputs generalizing b' with
  | nil => exact h
  | cons output outputs ih =>
      have hemit : Moves b (b'.emit (.resampled output)) := h.emit rfl
      have hwrite : Moves b (options.writePbxFrame (b'.emit (.resampled output)) output).2 := moves_writePbxFrame hemit
      unfold writeOutputs
      split
      · rename_i hthrows
        rwa [hthrows] at hwrite
      · rename_i hreturns
        rw [hreturns] at hwrite
        exact ih hwrite

theorem moves_readerFails {track : Track} (h : Moves b b') : Moves b (readerFails b' track) :=
  h.fail.deleteReader

theorem moves_readerDone {track : Track} {resampler : ρ} : Moves b (options.readerDone b track resampler) := by
  unfold readerDone
  split
  · exact (Moves.refl b).deleteReader
  · split
    · exact moves_readerFails (.refl b)
    · rename_i outputs _ _
      have hwrite : Moves b (options.writeOutputs b outputs).2 := moves_writeOutputs (.refl b)
      split
      · rename_i hthrows
        rw [hthrows] at hwrite
        exact moves_readerFails hwrite
      · rename_i hreturns
        rw [hreturns] at hwrite
        exact hwrite.signal.deleteReader

theorem moves_readerValue {track : Track} {reader : Reader ρ} {audio : Pcm16FrameAssembler × ρ} {value : AgentFrame} :
    Moves b (options.readerValue b track reader audio value) := by
  have hwrite : Moves b (options.writeOutputs b (options.agentAudio audio value).1).2 := moves_writeOutputs (.refl b)
  unfold readerValue
  dsimp only
  generalize options.writeOutputs b (options.agentAudio audio value).1 = result at hwrite
  obtain ⟨returns, b'⟩ := result
  cases returns with
  | false => exact moves_readerFails hwrite
  | true =>
      cases (options.agentAudio audio value).2 with
      | none => exact moves_readerFails hwrite
      | some audio' =>
          dsimp only
          split
          · exact hwrite.deleteReader
          · exact hwrite.setReader

theorem moves_turn {track : Track} : Moves b (options.turn b track) := by
  unfold turn
  split
  · exact .refl b
  · split
    · exact .refl b
    · exact moves_readerFails (.refl b)
    · exact moves_readerValue
    · split
      · exact moves_readerDone
      · exact .refl b

/-! ## The handlers -/

theorem moves_subscribe {publication : Publication} (h : Moves b b') : Moves b (subscribe b' publication).2 := by
  unfold subscribe
  split
  · exact h
  · exact h.emit rfl

theorem moves_subscribeAll {publications : List Publication} (h : Moves b b') :
    Moves b (subscribeAll b' publications).2 := by
  induction publications generalizing b' with
  | nil => exact h
  | cons publication publications ih =>
      have hsubscribe : Moves b (subscribe b' publication).2 := moves_subscribe h
      unfold subscribeAll
      split
      · rename_i hthrows
        rwa [hthrows] at hsubscribe
      · rename_i hreturns
        rw [hreturns] at hsubscribe
        exact ih hsubscribe

theorem moves_onTrackPublished {publication : Option Publication} {participant : Option RemoteParticipant} :
    Moves b (options.onTrackPublished b publication participant) := by
  unfold onTrackPublished
  split
  · exact .refl b
  · rename_i publication
    have hsubscribe : Moves b (subscribe b publication).2 := moves_subscribe (.refl b)
    split
    · split
      · rename_i hreturns
        rwa [hreturns] at hsubscribe
      · rename_i hthrows
        rw [hthrows] at hsubscribe
        exact hsubscribe.signal
    · exact .refl b

theorem moves_onTrackSubscribed {track : Option Track} {publication : Option Publication}
    {participant : Option RemoteParticipant} : Moves b (options.onTrackSubscribed b track publication participant) := by
  unfold onTrackSubscribed
  split
  · exact .refl b
  · split
    · exact .refl b
    · split
      · exact (Moves.refl b).fail
      · dsimp only
        split
        · exact (Moves.refl b).setReader.signal
        · exact (Moves.refl b).setReader.signal.fail

theorem moves_stopReaderForTrack {track : Option Track} (h : Moves b b') : Moves b (stopReaderForTrack b' track) := by
  unfold stopReaderForTrack
  split
  · exact h.setReader
  · exact h

theorem moves_failUnlessHangingUp {reason : String} (h : Moves b b') : Moves b (failUnlessHangingUp b' reason) := by
  unfold failUnlessHangingUp
  split
  · exact h
  · exact h.fail

/-- The packet asks for a hangup. -/
def hangupPacket : RoomEvent → Bool
  | .dataReceived payload _ => isHangup payload
  | .trackPublished _ _ | .trackSubscribed _ _ _ | .trackUnsubscribed _ _ | .participantDisconnected _
  | .disconnected => false

theorem onDataReceived_other {payload : Option JsonObject} (h : isHangup payload = false) :
    options.onDataReceived b payload = b := by
  cases payload with
  | none => rfl
  | some data =>
      have htype : data.text? "type" ≠ some "call_hangup" := by simpa [isHangup] using h
      simp [onDataReceived, htype]

/-- A handler moves audio unless it hears the packet. -/
theorem moves_onRoomEvent {event : RoomEvent} (h : hangupPacket event = false) :
    Moves b (options.onRoomEvent b event) := by
  cases event with
  | trackPublished publication participant => exact moves_onTrackPublished
  | trackSubscribed track publication participant => exact moves_onTrackSubscribed
  | trackUnsubscribed track participant =>
      apply moves_stopReaderForTrack
      split
      · exact moves_failUnlessHangingUp (.refl b)
      · exact .refl b
  | participantDisconnected participant =>
      simp only [onRoomEvent]
      split
      · exact moves_failUnlessHangingUp (.refl b)
      · exact .refl b
  | dataReceived payload participant =>
      show Moves b (options.onDataReceived b payload)
      rw [onDataReceived_other h]
      exact .refl b
  | disconnected =>
      simp only [onRoomEvent]
      split
      · exact .refl b
      · exact moves_failUnlessHangingUp (.refl b)

/-! ## The turns -/

/-- The turns that only move audio. -/
def movesAudio : Input ω → Bool
  | .room event => !hangupPacket event
  | .start | .published _ | .opened _ | .close | .immediate => false
  | .audio _ _ | .audioEnds _ | .audioFails _ | .turn _ | .writerMoves _ | .pbxEnds _ | .handled _
  | .clearOutboundAudio | .closeSettles => true

theorem moves_stream {track : Track} {change : Reader ρ → Reader ρ} : Moves b (stream b track change) := by
  unfold stream
  split
  · split
    · exact .refl b
    · exact (Moves.refl b).setReader
  · exact .refl b

theorem moves_step {input : Input ω} (h : movesAudio input = true) : Moves b (options.step b input) := by
  cases input with
  | start | published | opened | close | immediate => cases h
  | room event =>
      simp only [step]
      split
      · exact moves_onRoomEvent (by simpa [movesAudio] using h)
      · exact .refl b
  | audio | audioEnds | audioFails => exact moves_stream
  | turn => exact moves_turn
  | writerMoves writer =>
      simp only [step]
      split
      · exact (Moves.refl b).setWriter
      · exact .refl b
  | pbxEnds failed =>
      simp only [step]
      split
      · exact Moves.fail (.of_same rfl rfl rfl rfl rfl rfl)
      · exact .refl b
  | handled completed =>
      simp only [step]
      split
      · exact .refl b
      · split
        · exact .of_same rfl rfl rfl rfl rfl rfl
        · exact Moves.signal (.of_same rfl rfl rfl rfl rfl rfl)
  | clearOutboundAudio =>
      simp only [step]
      split
      · split
        · exact .refl b
        · exact (Moves.emit rfl (Moves.refl b).setWriter).signal
      · exact .refl b
  | closeSettles =>
      simp only [step]
      split
      · exact Moves.signal (.of_same rfl rfl rfl rfl rfl rfl)
      · exact .refl b

/-- The turn is a `call_hangup` packet that is heard. -/
def hears (b : Bridge ρ ω) : Input ω → Bool
  | .room event => b.listening && hangupPacket event
  | _ => false

/-- What a turn can do. -/
inductive Turned (options : BridgeOptions ρ ω) (b : Bridge ρ ω) : Input ω → Bridge ρ ω → Prop
  | quiet {input : Input ω} {b' : Bridge ρ ω} (silent : hears b input = false) (quiet : QuietTurn b b') :
      Turned options b input b'
  | heard (data : JsonObject) (participant : Option RemoteParticipant) (packet : data.text? "type" = some "call_hangup")
      (listening : b.listening = true) :
      Turned options b (.room (.dataReceived (some data) participant))
        (if options.hasOnHangup then
          (({ b with hangingUp := true }).signal "agent_hangup_signaled").emit (.onHangup (hangupReason data))
        else ({ b with hangingUp := true }).signal "agent_hangup_signaled")
  | reported (reason : String) (rest : List String) (scheduled : b.scheduled = reason :: rest) :
      Turned options b .immediate
        (({ b with scheduled := rest, handling := b.handling + 1 }).emit (.onFailure reason))

theorem quiet_startFails : QuietTurn b (startFails b) := by
  have hfailed : QuietTurn b { b with startup := .failed } := .of_same rfl rfl rfl rfl
  have hsignal : QuietTurn b (({ b with startup := .failed }).signal "media_bridge_start_failed") :=
    hfailed.trans (Moves.refl _).signal.toQuietTurn
  unfold startFails close
  split
  · exact hsignal
  · exact hsignal.trans (.of_same rfl rfl rfl rfl)

theorem step_cases (options : BridgeOptions ρ ω) (b : Bridge ρ ω) (input : Input ω) :
    Turned options b input (options.step b input) := by
  by_cases haudio : movesAudio input = true
  · have hsilent : hears b input = false := by
      cases input with
      | room event =>
          have hpacket : hangupPacket event = false := by simpa [movesAudio] using haudio
          simp [hears, hpacket]
      | _ => rfl
    exact .quiet hsilent (moves_step haudio).toQuietTurn
  cases input with
  | room event =>
      have hpacket : hangupPacket event = true := by simpa [movesAudio] using haudio
      cases event with
      | trackPublished | trackSubscribed | trackUnsubscribed | participantDisconnected | disconnected => cases hpacket
      | dataReceived payload participant =>
          cases payload with
          | none => cases hpacket
          | some data =>
              have htype : data.text? "type" = some "call_hangup" := by
                simpa [hangupPacket, isHangup] using hpacket
              cases hlistening : b.listening with
              | true =>
                  simp only [step, hlistening, if_true, onRoomEvent, onDataReceived, htype]
                  exact .heard data participant htype hlistening
              | false =>
                  simp only [step, hlistening, Bool.false_eq_true, if_false]
                  exact .quiet (by simp [hears, hlistening]) (Moves.refl b).toQuietTurn
  | start =>
      apply Turned.quiet rfl
      simp only [step]
      split
      · exact (Moves.refl b).toQuietTurn
      · exact .of_same rfl rfl rfl rfl
  | published writer =>
      apply Turned.quiet rfl
      simp only [step]
      split
      · exact (Moves.refl b).toQuietTurn
      · split
        · exact .of_same rfl rfl rfl rfl
        · exact quiet_startFails
  | opened remotes =>
      apply Turned.quiet rfl
      simp only [step]
      split
      · exact (Moves.refl b).toQuietTurn
      · split
        · rename_i publications
          have hrunning : QuietTurn b { b with startup := .running, pumping := true } := .of_same rfl rfl rfl rfl
          have hsubscribed : QuietTurn b (subscribeAll { b with startup := .running, pumping := true }
              (options.earlierAudio publications)).2 :=
            hrunning.trans (moves_subscribeAll (.refl _)).toQuietTurn
          split
          · rename_i hreturns
            rw [hreturns] at hsubscribed
            exact hsubscribed.trans (Moves.refl _).signal.toQuietTurn
          · rename_i hthrows
            rw [hthrows] at hsubscribed
            exact hsubscribed.trans quiet_startFails
        · exact quiet_startFails
  | close =>
      apply Turned.quiet rfl
      simp only [step, close]
      split
      · exact (Moves.refl b).toQuietTurn
      · exact .of_same rfl rfl rfl rfl
  | immediate =>
      simp only [step]
      split
      · exact .quiet rfl (Moves.refl b).toQuietTurn
      · rename_i reason rest hscheduled
        exact .reported reason rest hscheduled
  | audio | audioEnds | audioFails | turn | writerMoves | pbxEnds | handled | clearOutboundAudio | closeSettles =>
      exact absurd rfl haudio

/-- A turn adds to the history. -/
theorem history_step {input : Input ω} : ∃ added, (options.step b input).history = added ++ b.history := by
  have hturned := step_cases options b input
  generalize options.step b input = b' at hturned
  cases hturned with
  | quiet hsilent hquiet =>
      obtain ⟨added, hadded, -⟩ := hquiet.history
      exact ⟨added, hadded⟩
  | heard data participant =>
      split
      · exact ⟨[.onHangup (hangupReason data), .signal "agent_hangup_signaled"], rfl⟩
      · exact ⟨[.signal "agent_hangup_signaled"], rfl⟩
  | reported reason rest => exact ⟨[.onFailure reason], rfl⟩

end BridgeOptions

end Connector
end VoiceAssistants
