import VoiceAssistants.Connector.MediaBridgeSteps

/-!
# What untrusted participants can do to a call

Two runs of the media bridge with the same turns, but for the room events of participants that the verifier refuses,
should do the same outside (`performed`).  Five handlers ask the verifier; `onDataReceived` does not ask who has sent
the packet, and `onTrackUnsubscribed` stops the reader of the track before it could matter who published it.

`untrusted_inert` is the two-run statement under the condition that neither happens, and its second half says that a
`call_hangup` packet of an untrusted sender that is heard always shows outside.
-/

namespace VoiceAssistants
namespace Connector

open Collections Media

/-- The remote participant of an event; `disconnected` has none. -/
def RoomEvent.participant : RoomEvent → Option (Option RemoteParticipant)
  | trackPublished _ participant | trackSubscribed _ _ participant | trackUnsubscribed _ participant
  | participantDisconnected participant | dataReceived _ participant => some participant
  | disconnected => none

/-- A subscription, a write, or a call of a handler. -/
def MediaEffect.outward : MediaEffect → Bool
  | subscribed _ | wrote _ _ | onFailure _ | onHangup _ => true
  | resampled _ | cleared _ | signal _ => false

/-- What the bridge has done outside, newest first. -/
def Bridge.performed {ρ ω : Type} (b : Bridge ρ ω) : List MediaEffect :=
  b.history.filter MediaEffect.outward

namespace BridgeOptions

variable {ρ ω : Type} (options : BridgeOptions ρ ω)

/-- An event whose participant the verifier refuses. -/
def untrusted : Input ω → Bool
  | .room event => event.participant.any fun participant => !options.isAuthorized participant
  | _ => false

/-- The turns without the events of untrusted participants. -/
def trusted (inputs : List (Input ω)) : List (Input ω) :=
  inputs.filter fun input => !options.untrusted input

/-- A `call_hangup` packet is heard from an untrusted sender. -/
def HearsUntrustedHangup (inputs : List (Input ω)) : Prop :=
  ∃ before payload participant after, inputs = before ++ .room (.dataReceived payload participant) :: after ∧
    isHangup payload = true ∧ options.isAuthorized participant = false ∧ (options.run before).listening = true

/-- A track that is being read is unsubscribed in the name of an untrusted participant. -/
def UntrustedStop (inputs : List (Input ω)) : Prop :=
  ∃ before track participant after, inputs = before ++ .room (.trackUnsubscribed (some track) participant) :: after ∧
    options.isAuthorized participant = false ∧ (options.run before).listening = true ∧
    ((options.run before).reader track).isSome = true

/-- Neither happens. -/
def Inert (inputs : List (Input ω)) : Prop :=
  ¬ options.HearsUntrustedHangup inputs ∧ ¬ options.UntrustedStop inputs

variable {options} {b b' : Bridge ρ ω} {inputs : List (Input ω)} {input : Input ω}

theorem run_append : options.run (inputs ++ [input]) = options.step (options.run inputs) input := by
  rw [run, List.foldl_append]
  rfl

theorem trusted_append : options.trusted (inputs ++ [input]) =
    if options.untrusted input then options.trusted inputs else options.trusted inputs ++ [input] := by
  rw [trusted, List.filter_append]
  cases h : options.untrusted input <;> simp [trusted, h]

/-! ## Untrusted events do nothing else -/

/-- An untrusted event does nothing, unless it is a `call_hangup` packet or stops a reader. -/
theorem onRoomEvent_untrusted {event : RoomEvent} (huntrusted : options.untrusted (.room event) = true)
    (hpacket : hangupPacket event = false)
    (hstop : ∀ track participant, event = .trackUnsubscribed (some track) participant → b.reader track = none) :
    options.onRoomEvent b event = b := by
  cases event with
  | trackPublished publication participant =>
      have hrefused : options.isAuthorized participant = false := by
        simpa [untrusted, RoomEvent.participant] using huntrusted
      cases publication with
      | none => rfl
      | some publication => simp [onRoomEvent, onTrackPublished, hrefused]
  | trackSubscribed track publication participant =>
      have hrefused : options.isAuthorized participant = false := by
        simpa [untrusted, RoomEvent.participant] using huntrusted
      cases track with
      | none => rfl
      | some track => simp [onRoomEvent, onTrackSubscribed, hrefused]
  | trackUnsubscribed track participant =>
      have hrefused : options.isAuthorized participant = false := by
        simpa [untrusted, RoomEvent.participant] using huntrusted
      cases track with
      | none => simp [onRoomEvent, stopReaderForTrack, hrefused]
      | some track => simp [onRoomEvent, stopReaderForTrack, hrefused, hstop track participant rfl]
  | participantDisconnected participant =>
      have hrefused : options.isAuthorized participant = false := by
        simpa [untrusted, RoomEvent.participant] using huntrusted
      simp [onRoomEvent, hrefused]
  | dataReceived payload participant => exact onDataReceived_other hpacket
  | disconnected => simp [untrusted, RoomEvent.participant] at huntrusted

/-- Turns that meet the condition end where they end without the untrusted events. -/
theorem run_trusted (h : options.Inert inputs) : options.run (options.trusted inputs) = options.run inputs := by
  induction inputs using List.reverseRecOn with
  | nil => rfl
  | append_singleton inputs input ih =>
      -- a shorter run meets the condition as well
      have hprefix : options.Inert inputs := by
        constructor
        · rintro ⟨before, payload, participant, after, rfl, hrest⟩
          exact h.1 ⟨before, payload, participant, after ++ [input], by simp, hrest⟩
        · rintro ⟨before, track, participant, after, rfl, hrest⟩
          exact h.2 ⟨before, track, participant, after ++ [input], by simp, hrest⟩
      rw [trusted_append, run_append]
      split
      · rename_i huntrusted
        rw [ih hprefix]
        cases input with
        | room event =>
            simp only [step]
            split
            · rename_i hlistening
              symm
              apply onRoomEvent_untrusted huntrusted
              · by_contra hpacket
                cases event with
                | dataReceived payload participant =>
                    have hrefused : options.isAuthorized participant = false := by
                      simpa [untrusted, RoomEvent.participant] using huntrusted
                    exact h.1 ⟨inputs, payload, participant, [], rfl, by simpa [hangupPacket] using hpacket, hrefused,
                      hlistening⟩
                | trackPublished | trackSubscribed | trackUnsubscribed | participantDisconnected | disconnected =>
                    exact hpacket rfl
              · rintro track participant rfl
                have hrefused : options.isAuthorized participant = false := by
                  simpa [untrusted, RoomEvent.participant] using huntrusted
                by_contra hreading
                exact h.2 ⟨inputs, track, participant, [], rfl, hrefused, hlistening,
                  Option.isSome_iff_ne_none.mpr hreading⟩
            · rfl
        | start | published | opened | audio | audioEnds | audioFails | turn | writerMoves | pbxEnds | immediate
        | handled | clearOutboundAudio | close | closeSettles => cases huntrusted
      · rw [run_append, ih hprefix]

/-! ## A hangup packet shows -/

/-- The calls of `onHangup`. -/
def isOnHangup : MediaEffect → Bool
  | .onHangup _ => true
  | _ => false

def hangups (b : Bridge ρ ω) : Nat :=
  b.history.countP isOnHangup

/-- What decides whether the handlers are registered. -/
def SameLife (b b' : Bridge ρ ω) : Prop :=
  b.startup = b'.startup ∧ b.closed = b'.closed

theorem SameLife.symm (h : SameLife b b') : SameLife b' b :=
  ⟨h.1.symm, h.2.symm⟩

theorem SameLife.trans {b'' : Bridge ρ ω} (h : SameLife b b') (h' : SameLife b' b'') : SameLife b b'' :=
  ⟨h.1.trans h'.1, h.2.trans h'.2⟩

theorem SameLife.listening (h : SameLife b b') : b.listening = b'.listening := by
  rw [Bridge.listening, Bridge.listening, h.1, h.2]

theorem SameLife.hears (h : SameLife b b') : hears b input = hears b' input := by
  unfold BridgeOptions.hears
  rw [h.listening]

theorem sameLife_of_moves (h : Moves b b') : SameLife b b' :=
  ⟨h.startup.symm, h.closed.symm⟩

/-- The packet leaves the life of the bridge as it is. -/
theorem sameLife_onDataReceived {payload : Option JsonObject} : SameLife b (options.onDataReceived b payload) := by
  unfold onDataReceived
  split
  · exact ⟨rfl, rfl⟩
  · split
    · dsimp only
      split <;> exact ⟨rfl, rfl⟩
    · exact ⟨rfl, rfl⟩

/-- So does every room event. -/
theorem sameLife_room {event : RoomEvent} : SameLife b (options.step b (.room event)) := by
  by_cases hpacket : hangupPacket event = true
  · cases event with
    | dataReceived payload participant =>
        simp only [step]
        split
        · exact sameLife_onDataReceived
        · exact ⟨rfl, rfl⟩
    | trackPublished | trackSubscribed | trackUnsubscribed | participantDisconnected | disconnected => cases hpacket
  · exact sameLife_of_moves (moves_step (by simpa [movesAudio] using hpacket))

theorem subscribeAll_returns {publications : List Publication} :
    (subscribeAll b publications).1 = (subscribeAll b' publications).1 := by
  induction publications generalizing b b' with
  | nil => rfl
  | cons publication publications ih =>
      cases hmethod : publication.setSubscribed with
      | none =>
          simp only [subscribeAll, subscribe, hmethod]
          exact ih
      | some returns =>
          cases returns with
          | false => simp [subscribeAll, subscribe, hmethod]
          | true =>
              simp only [subscribeAll, subscribe, hmethod]
              exact ih

theorem life_startFails : (startFails b).startup = .failed ∧ (startFails b).closed = true := by
  unfold startFails close Bridge.signal Bridge.emit
  dsimp only
  split
  · rename_i hclosed
    exact ⟨rfl, hclosed⟩
  · exact ⟨rfl, rfl⟩

theorem sameLife_startFails : SameLife (startFails b) (startFails b') :=
  ⟨life_startFails.1.trans life_startFails.1.symm, life_startFails.2.trans life_startFails.2.symm⟩

/-- A turn does to the life of a bridge what it does to every bridge of the same life. -/
theorem sameLife_step (h : SameLife b b') : SameLife (options.step b input) (options.step b' input) := by
  by_cases haudio : movesAudio input = true
  · exact ((sameLife_of_moves (moves_step haudio)).symm.trans h).trans (sameLife_of_moves (moves_step haudio))
  cases input with
  | room event => exact (sameLife_room.symm.trans h).trans sameLife_room
  | start =>
      simp only [step, h.1, h.2]
      split
      · exact h
      · exact ⟨rfl, rfl⟩
  | published writer =>
      simp only [step, h.1]
      split
      · exact h
      · cases writer with
        | none => exact sameLife_startFails
        | some writer => exact ⟨rfl, h.2⟩
  | opened remotes =>
      simp only [step, h.1]
      split
      · exact h
      · cases remotes with
        | none => exact sameLife_startFails
        | some remotes =>
            -- whether a subscription throws does not depend on the bridge
            have hreturns : (subscribeAll { b with startup := .running, pumping := true }
                (options.earlierAudio remotes)).1 =
                (subscribeAll { b' with startup := .running, pumping := true } (options.earlierAudio remotes)).1 :=
              subscribeAll_returns
            have hlife : SameLife (subscribeAll { b with startup := .running, pumping := true }
                (options.earlierAudio remotes)).2
                (subscribeAll { b' with startup := .running, pumping := true } (options.earlierAudio remotes)).2 := by
              have hrunning : SameLife { b with startup := .running, pumping := true }
                  { b' with startup := .running, pumping := true } := ⟨rfl, h.2⟩
              exact ((sameLife_of_moves (moves_subscribeAll (.refl _))).symm.trans hrunning).trans
                (sameLife_of_moves (moves_subscribeAll (.refl _)))
            dsimp only
            generalize subscribeAll { b with startup := .running, pumping := true } _ = result at hreturns hlife
            generalize subscribeAll { b' with startup := .running, pumping := true } _ = result' at hreturns hlife
            obtain ⟨returns, c⟩ := result
            obtain ⟨returns', c'⟩ := result'
            obtain rfl : returns = returns' := hreturns
            cases returns with
            | true => exact hlife
            | false => exact sameLife_startFails
  | close =>
      simp only [step, close, h.2]
      split
      · exact h
      · exact ⟨h.1, rfl⟩
  | immediate =>
      have hsame : ∀ c : Bridge ρ ω, SameLife c (options.step c .immediate) := by
        intro c
        simp only [step]
        split <;> exact ⟨rfl, rfl⟩
      exact ((hsame b).symm.trans h).trans (hsame b')
  | audio | audioEnds | audioFails | turn | writerMoves | pbxEnds | handled | clearOutboundAudio | closeSettles =>
      exact absurd rfl haudio

/-! ### The calls are the packets that are heard -/

theorem hangups_of_quiet (h : QuietTurn b b') : hangups b' = hangups b := by
  obtain ⟨added, hadded, hinner⟩ := h.history
  have hnone : added.countP isOnHangup = 0 := by
    rw [List.countP_eq_zero]
    intro effect hmem
    have heffect := hinner effect hmem
    cases effect <;> simp_all [MediaEffect.inner, isOnHangup]
  rw [hangups, hadded, List.countP_append, hnone, Nat.zero_add, hangups]

/-- Every packet that is heard calls the handler, and nothing else does. -/
theorem hangups_step (hhandler : options.hasOnHangup = true) :
    hangups (options.step b input) = hangups b + (hears b input).toNat := by
  have hturned := step_cases options b input
  generalize options.step b input = b' at hturned
  cases hturned with
  | quiet hsilent hquiet =>
      rw [hangups_of_quiet hquiet, hsilent]
      rfl
  | heard data participant hpacket hlistening =>
      have hheard : hears b (.room (.dataReceived (some data) participant)) = true := by
        simp [hears, hlistening, hangupPacket, isHangup, hpacket]
      rw [if_pos hhandler, hheard]
      simp [hangups, Bridge.signal, Bridge.emit, List.countP_cons, isOnHangup]
  | reported reason rest => simp [hangups, Bridge.emit, hears, isOnHangup]

/-- Without the untrusted events the life is the same, and a packet that is missing is a call that is missing. -/
theorem hangups_trusted (hhandler : options.hasOnHangup = true) (inputs : List (Input ω)) :
    SameLife (options.run inputs) (options.run (options.trusted inputs)) ∧
      hangups (options.run (options.trusted inputs)) ≤ hangups (options.run inputs) ∧
      (options.HearsUntrustedHangup inputs →
        hangups (options.run (options.trusted inputs)) < hangups (options.run inputs)) := by
  induction inputs using List.reverseRecOn with
  | nil =>
      refine ⟨⟨rfl, rfl⟩, Nat.le_refl _, ?_⟩
      rintro ⟨before, payload, participant, after, heq, -⟩
      simp at heq
  | append_singleton inputs input ih =>
      obtain ⟨hlife, hle, hlt⟩ := ih
      -- the packet that is heard is the last input, or one of the earlier ones
      have hlast : options.HearsUntrustedHangup (inputs ++ [input]) →
          options.HearsUntrustedHangup inputs ∨
            options.untrusted input = true ∧ hears (options.run inputs) input = true := by
        rintro ⟨before, payload, participant, after, heq, hpacket, hrefused, hlistening⟩
        rcases List.eq_nil_or_concat after with rfl | ⟨after, last, rfl⟩
        · right
          obtain ⟨rfl, hinput⟩ := List.append_inj' heq rfl
          obtain rfl := List.singleton_inj.mp hinput
          simp [untrusted, RoomEvent.participant, hrefused, hears, hlistening, hangupPacket, hpacket]
        · left
          rw [List.concat_eq_append, ← List.cons_append, ← List.append_assoc] at heq
          obtain ⟨rfl, -⟩ := List.append_inj' heq rfl
          exact ⟨before, payload, participant, after, rfl, hpacket, hrefused, hlistening⟩
      have hcount : hangups (options.run (inputs ++ [input])) =
          hangups (options.run inputs) + (hears (options.run inputs) input).toNat := by
        rw [run_append, hangups_step hhandler]
      rw [trusted_append]
      cases huntrusted : options.untrusted input with
      | true =>
          rw [if_pos rfl, hcount]
          refine ⟨?_, by omega, ?_⟩
          · rw [run_append]
            cases input with
            | room event => exact sameLife_room.symm.trans hlife
            | _ => cases huntrusted
          · intro hheard
            rcases hlast hheard with hearlier | ⟨-, hnow⟩
            · have := hlt hearlier
              omega
            · rw [hnow, Bool.toNat_true]
              omega
      | false =>
          rw [if_neg Bool.false_ne_true]
          have hcount' : hangups (options.run (options.trusted inputs ++ [input])) =
              hangups (options.run (options.trusted inputs)) + (hears (options.run inputs) input).toNat := by
            rw [run_append, hangups_step hhandler, ← hlife.hears]
          rw [hcount, hcount']
          refine ⟨?_, by omega, ?_⟩
          · rw [run_append, run_append]
            exact sameLife_step hlife
          · intro hheard
            rcases hlast hheard with hearlier | ⟨htrue, -⟩
            · have := hlt hearlier
              omega
            · rw [huntrusted] at htrue
              cases htrue

theorem hangups_performed : b.performed.countP isOnHangup = hangups b := by
  rw [Bridge.performed, List.countP_filter, hangups]
  congr 1
  funext effect
  cases effect <;> rfl

/-- **Untrusted participants.**  Two runs that agree but for the events of untrusted participants do the same outside if
no untrusted `call_hangup` packet is heard and no untrusted event stops a reader.  A packet that is heard shows outside:
the run without the untrusted events calls `onHangup` less often. -/
theorem untrusted_inert (options : BridgeOptions ρ ω) :
    (∀ inputs inputs', options.trusted inputs = options.trusted inputs' → options.Inert inputs → options.Inert inputs' →
      (options.run inputs).performed = (options.run inputs').performed) ∧
    (options.hasOnHangup = true → ∀ inputs, options.HearsUntrustedHangup inputs →
      (options.run inputs).performed ≠ (options.run (options.trusted inputs)).performed) := by
  constructor
  · intro inputs inputs' htrusted h h'
    rw [← run_trusted h, ← run_trusted h', htrusted]
  · intro hhandler inputs hheard hsame
    have hlt := (hangups_trusted hhandler inputs).2.2 hheard
    rw [← hangups_performed, ← hangups_performed, hsame] at hlt
    exact Nat.lt_irrefl _ hlt

/-! ## A stranger in the room -/

/-- A bridge for the agent of a dispatch.  The resampler gives back what it gets, and the writer plays at once. -/
def sample : BridgeOptions Unit Unit where
  dispatchId := "dispatch"
  isAuthorizedAgent := createDispatchAgentVerifier "dispatch" "agent"
  hasOnHangup := true
  maxBufferedMs := 200
  bounded := by decide
  audioStream _ := true
  resampler :=
    { create := fun _ _ _ _ _ => .ok ()
      push := fun _ bytes => .ok ([.buffer bytes], ())
      flush := fun _ => .ok ([], ()) }
  writer :=
    { bufferedBytes := fun _ => 0
      cancelled := fun _ => false
      write := fun _ _ => some ()
      clear := id
      cancel := id }

def sampleAgent : RemoteParticipant :=
  ⟨"agent", .agent⟩

def sampleStranger : RemoteParticipant :=
  ⟨"stranger", .standard⟩

/-- The data of a `call_hangup` packet. -/
def sampleHangup : JsonObject :=
  .ofPairs [("type", .text "call_hangup")]

/-- The bridge has started. -/
def sampleStarted : List (Input Unit) :=
  [.start, .published (some ()), .opened (some [])]

/-- The agent's track is read. -/
def sampleReading : List (Input Unit) :=
  sampleStarted ++ [.room (.trackSubscribed (some 7) (some ⟨1, "audio", some true⟩) (some sampleAgent))]

/-- Twenty milliseconds of the agent's audio. -/
def sampleFrame : AgentFrame :=
  ⟨24000, 1, List.replicate 480 0⟩

/-- The agent speaks. -/
def sampleSpeech : List (Input Unit) :=
  [.audio 7 sampleFrame, .turn 7]

/-- A stranger hangs up the call; and without any packet, a stranger mutes the agent by unsubscribing its track. -/
theorem stranger_acts :
    (¬ ∀ (ρ ω : Type) (options : BridgeOptions ρ ω) (inputs inputs' : List (Input ω)),
      options.trusted inputs = options.trusted inputs' →
      (options.run inputs).performed = (options.run inputs').performed) ∧
    ¬ ∀ (ρ ω : Type) (options : BridgeOptions ρ ω) (inputs inputs' : List (Input ω)),
      options.trusted inputs = options.trusted inputs' →
      ¬ options.HearsUntrustedHangup inputs → ¬ options.HearsUntrustedHangup inputs' →
      (options.run inputs).performed = (options.run inputs').performed := by
  constructor
  · intro hall
    have hsame := hall Unit Unit sample
      (sampleStarted ++ [.room (.dataReceived (some sampleHangup) (some sampleStranger))]) sampleStarted rfl
    have hdiffer : (sample.run
        (sampleStarted ++ [.room (.dataReceived (some sampleHangup) (some sampleStranger))])).performed ≠
        (sample.run sampleStarted).performed := by
      decide +kernel
    exact hdiffer hsame
  · intro hall
    have hsame := hall Unit Unit sample
      (sampleReading ++ .room (.trackUnsubscribed (some 7) (some sampleStranger)) :: sampleSpeech)
      (sampleReading ++ sampleSpeech) rfl ?_ ?_
    · have hdiffer : (sample.run
          (sampleReading ++ .room (.trackUnsubscribed (some 7) (some sampleStranger)) :: sampleSpeech)).performed ≠
          (sample.run (sampleReading ++ sampleSpeech)).performed := by
        decide +kernel
      exact hdiffer hsame
    · rintro ⟨before, payload, participant, after, heq, -⟩
      have hmem : Input.room (.dataReceived payload participant) ∈
          sampleReading ++ .room (.trackUnsubscribed (some 7) (some sampleStranger)) :: sampleSpeech := by
        rw [heq]
        simp
      simp [sampleReading, sampleStarted, sampleSpeech] at hmem
    · rintro ⟨before, payload, participant, after, heq, -⟩
      have hmem : Input.room (.dataReceived payload participant) ∈ sampleReading ++ sampleSpeech := by
        rw [heq]
        simp
      simp [sampleReading, sampleStarted, sampleSpeech] at hmem

end BridgeOptions

end Connector
end VoiceAssistants
