import VoiceAssistants.Connector.UntrustedMedia
import VoiceAssistants.Connector.CallController

/-!
# From the media bridge to the call controller (`verified-threecx-livekit-media.mjs`)

`startVerifiedThreeCxLiveKitMediaBridge` gives the bridge two handlers, which call `handleMediaFailure` and
`handleCallHangup` of the call controller for one session.  `Wired` is the bridge and the controller with this wiring;
each of them also takes turns of its own, in any order.

A `call_hangup` packet sets `hangingUp` for good, whatever the controller makes of the hangup, and a loss of the agent
is then passed over.  `loss_reported` says that this is the only way: when the agent or the room is lost,
`handleMediaFailure` is called once, exactly if no packet was heard before or the failure had been raised already.
-/

namespace VoiceAssistants
namespace Connector

open Async

/-! ## The failure is raised once -/

namespace BridgeOptions

variable {ρ ω : Type} {options : BridgeOptions ρ ω} {b b' : Bridge ρ ω} {inputs : List (Input ω)} {input : Input ω}

/-- The calls of `onFailure`. -/
def isOnFailure : MediaEffect → Bool
  | .onFailure _ => true
  | _ => false

def failures (b : Bridge ρ ω) : Nat :=
  b.history.countP isOnFailure

/-- The failure has been reported, or `setImmediate` has it, exactly if it has been raised. -/
structure RaisedOnce (b : Bridge ρ ω) : Prop where
  count : failures b + b.scheduled.length = b.failed.toNat

theorem failures_of_quiet (h : QuietTurn b b') : failures b' = failures b := by
  obtain ⟨added, hadded, hinner⟩ := h.history
  have hnone : added.countP isOnFailure = 0 := by
    rw [List.countP_eq_zero]
    intro effect hmem
    have heffect := hinner effect hmem
    cases effect <;> simp_all [MediaEffect.inner, isOnFailure]
  rw [failures, hadded, List.countP_append, hnone, Nat.zero_add, failures]

theorem RaisedOnce.of_quiet (h : RaisedOnce b) (hquiet : QuietTurn b b') : RaisedOnce b' := by
  constructor
  rw [failures_of_quiet hquiet]
  have hcount := h.count
  rcases hquiet.failure with ⟨hfailed, hscheduled⟩ | ⟨hunfailed, hfailed, reason, hscheduled⟩
  · rw [hfailed, hscheduled, hcount]
  · -- nothing was scheduled before
    rw [hunfailed, Bool.toNat_false] at hcount
    rw [hfailed, hscheduled, List.length_append, List.length_singleton, Bool.toNat_true]
    omega

theorem RaisedOnce.step (h : RaisedOnce b) : RaisedOnce (options.step b input) := by
  have hturned := step_cases options b input
  generalize options.step b input = b' at hturned
  cases hturned with
  | quiet hsilent hquiet => exact h.of_quiet hquiet
  | heard data participant =>
      constructor
      have hcount := h.count
      split
      · simpa [failures, Bridge.signal, Bridge.emit, isOnFailure] using hcount
      · simpa [failures, Bridge.signal, Bridge.emit, isOnFailure] using hcount
  | reported reason rest hscheduled =>
      constructor
      have hcount := h.count
      rw [hscheduled, List.length_cons] at hcount
      show (MediaEffect.onFailure reason :: b.history).countP isOnFailure + rest.length = b.failed.toNat
      rw [List.countP_cons_of_pos rfl]
      show failures b + 1 + rest.length = _
      omega

theorem raisedOnce_run (inputs : List (Input ω)) : RaisedOnce (options.run inputs) := by
  induction inputs using List.reverseRecOn with
  | nil => exact ⟨rfl⟩
  | append_singleton inputs input ih =>
      rw [run_append]
      exact ih.step

/-- After the next run of `setImmediate` a failure that was raised has been reported once. -/
theorem failures_immediate (h : RaisedOnce b) : failures (options.step b .immediate) = b.failed.toNat := by
  have hcount := h.count
  have hle : b.failed.toNat ≤ 1 := Bool.toNat_le _
  simp only [BridgeOptions.step]
  split
  · rename_i hscheduled
    rw [hscheduled] at hcount
    exact hcount
  · rename_i reason rest hscheduled
    rw [hscheduled, List.length_cons] at hcount
    show (MediaEffect.onFailure reason :: b.history).countP isOnFailure = _
    rw [List.countP_cons_of_pos rfl]
    show failures b + 1 = _
    omega

/-! ## The loss of the agent -/

/-- The agent disconnects, its audio is unsubscribed, or the room disconnects. -/
def loses (options : BridgeOptions ρ ω) : RoomEvent → Bool
  | .trackUnsubscribed _ participant | .participantDisconnected participant => options.isAuthorized participant
  | .disconnected => true
  | .trackPublished _ _ | .trackSubscribed _ _ _ | .dataReceived _ _ => false

theorem failed_failUnlessHangingUp {reason : String} (hopen : b.closed = false) :
    (failUnlessHangingUp b reason).failed = (b.failed || !b.hangingUp) := by
  unfold failUnlessHangingUp Bridge.fail
  cases hhanging : b.hangingUp with
  | true => simp
  | false =>
      cases hfailed : b.failed with
      | true => simp [hfailed]
      | false => simp [hopen, Bridge.signal, Bridge.emit]

theorem failed_stopReaderForTrack {track : Option Track} : (stopReaderForTrack b track).failed = b.failed := by
  unfold stopReaderForTrack
  split <;> rfl

/-- A loss that is heard raises the failure unless the bridge is hanging up. -/
theorem failed_of_loses {event : RoomEvent} (hloses : options.loses event = true) (hlistening : b.listening = true) :
    (options.step b (.room event)).failed = (b.failed || !b.hangingUp) := by
  have hopen : b.closed = false := by
    simp only [Bridge.listening, Bool.and_eq_true, Bool.not_eq_true'] at hlistening
    exact hlistening.2
  simp only [step, hlistening, if_true]
  cases event with
  | trackUnsubscribed track participant =>
      have hagent : options.isAuthorized participant = true := hloses
      simp only [onRoomEvent, hagent, if_true]
      rw [failed_stopReaderForTrack, failed_failUnlessHangingUp hopen]
  | participantDisconnected participant =>
      have hagent : options.isAuthorized participant = true := hloses
      simp only [onRoomEvent, hagent, if_true]
      exact failed_failUnlessHangingUp hopen
  | disconnected =>
      simp only [onRoomEvent, hopen, Bool.false_eq_true, if_false]
      exact failed_failUnlessHangingUp hopen
  | trackPublished | trackSubscribed | dataReceived => cases hloses

/-- A `call_hangup` packet has been heard. -/
def HeardHangup (options : BridgeOptions ρ ω) (inputs : List (Input ω)) : Prop :=
  ∃ before payload participant after, inputs = before ++ .room (.dataReceived payload participant) :: after ∧
    isHangup payload = true ∧ (options.run before).listening = true

/-- Only the packet sets `hangingUp`. -/
theorem hangingUp_step : (options.step b input).hangingUp = (b.hangingUp || hears b input) := by
  have hturned := step_cases options b input
  generalize options.step b input = b' at hturned
  cases hturned with
  | quiet hsilent hquiet => rw [hquiet.hangingUp, hsilent, Bool.or_false]
  | heard data participant hpacket hlistening =>
      have hheard : hears b (.room (.dataReceived (some data) participant)) = true := by
        simp [hears, hlistening, hangupPacket, isHangup, hpacket]
      rw [hheard, Bool.or_true]
      split <;> rfl
  | reported => simp [Bridge.emit, hears]

theorem hangingUp_run (inputs : List (Input ω)) : (options.run inputs).hangingUp = true ↔ options.HeardHangup inputs := by
  induction inputs using List.reverseRecOn with
  | nil =>
      constructor
      · intro h
        cases h
      · rintro ⟨before, payload, participant, after, heq, -⟩
        simp at heq
  | append_singleton inputs input ih =>
      rw [run_append, hangingUp_step, Bool.or_eq_true, ih]
      constructor
      · rintro (⟨before, payload, participant, after, rfl, hrest⟩ | hnow)
        · exact ⟨before, payload, participant, after ++ [input], by simp, hrest⟩
        · cases input with
          | room event =>
              simp only [hears, Bool.and_eq_true] at hnow
              cases event with
              | dataReceived payload participant =>
                  exact ⟨inputs, payload, participant, [], rfl, hnow.2, hnow.1⟩
              | trackPublished | trackSubscribed | trackUnsubscribed | participantDisconnected | disconnected =>
                  cases hnow.2
          | _ => cases hnow
      · rintro ⟨before, payload, participant, after, heq, hpacket, hlistening⟩
        rcases List.eq_nil_or_concat after with rfl | ⟨after, last, rfl⟩
        · right
          obtain ⟨rfl, hinput⟩ := List.append_inj' heq rfl
          obtain rfl := List.singleton_inj.mp hinput
          simp [hears, hlistening, hangupPacket, hpacket]
        · left
          rw [List.concat_eq_append, ← List.cons_append, ← List.append_assoc] at heq
          obtain ⟨rfl, -⟩ := List.append_inj' heq rfl
          exact ⟨before, payload, participant, after, rfl, hpacket, hlistening⟩

end BridgeOptions

/-! ## The wiring -/

/-- One turn of a controller; an action that is not enabled does nothing. -/
def Controller.turn (c : Controller) (action : Action) : Controller :=
  (c.step action).getD c

/-- The text of a `reason`. -/
def reasonText : JsonValue → String
  | .text value => value
  | .null => JsonObject.dumpsValue .null
  | .bool value => JsonObject.dumpsValue (.bool value)
  | .texts items => JsonObject.dumpsValue (.texts items)
  | .other json => JsonObject.dumpsValue (.other json)

/-- `onFailure` and `onHangup` of `startVerifiedThreeCxLiveKitMediaBridge`. -/
def handlerCall (sessionId : String) : MediaEffect → Option Action
  | .onFailure reason => some (.handleMediaFailure (some sessionId) (some reason))
  | .onHangup reason => some (.handleCallHangup (some sessionId) (reasonText reason))
  | .subscribed _ | .resampled _ | .wrote _ _ | .cleared _ | .signal _ => none

/-- A bridge and the controller that its handlers call, with the calls, newest first. -/
structure Wired (ρ ω : Type) where
  bridge : Bridge ρ ω
  controller : Controller
  invoked : List Action

/-- A turn of one of the two. -/
inductive WiredTurn (ω : Type)
  | bridge (input : Input ω)
  | controller (action : Action)

namespace Wired

variable {ρ ω : Type}

/-- The calls of the handlers that a turn of the bridge makes, newest first. -/
def calls (sessionId : String) (b b' : Bridge ρ ω) : List Action :=
  (b'.history.take (b'.history.length - b.history.length)).filterMap (handlerCall sessionId)

def step (options : BridgeOptions ρ ω) (sessionId : String) (w : Wired ρ ω) : WiredTurn ω → Wired ρ ω
  | .bridge input =>
      let bridge := options.step w.bridge input
      let calls := calls sessionId w.bridge bridge
      { bridge
        controller := calls.foldr (fun call controller => controller.turn call) w.controller
        invoked := calls ++ w.invoked }
  | .controller action => { w with controller := w.controller.turn action }

/-- The two after some turns, from a new bridge. -/
def run (options : BridgeOptions ρ ω) (sessionId : String) (controller : Controller) (turns : List (WiredTurn ω)) :
    Wired ρ ω :=
  turns.foldl (step options sessionId) ⟨.initial, controller, []⟩

/-- The inputs of the bridge. -/
def inputs (turns : List (WiredTurn ω)) : List (Input ω) :=
  turns.filterMap fun
    | .bridge input => some input
    | .controller _ => none

def isMediaFailure : Action → Bool
  | .handleMediaFailure _ _ => true
  | _ => false

/-- How often the bridge has called `handleMediaFailure`. -/
def mediaFailures (w : Wired ρ ω) : Nat :=
  w.invoked.countP isMediaFailure

section

variable (options : BridgeOptions ρ ω) (sessionId : String) (controller : Controller)

/-- When the agent or the room is lost while the bridge listens, `handleMediaFailure` has been called once as soon as
`setImmediate` has run. -/
def LossReported (turns : List (WiredTurn ω)) : Prop :=
  ∀ before event after, turns = before ++ .bridge (.room event) :: after → options.loses event = true →
    (run options sessionId controller before).bridge.listening = true →
    mediaFailures (run options sessionId controller (before ++ [.bridge (.room event), .bridge .immediate])) = 1

/-- Whenever the agent or the room is lost while the bridge listens, no `call_hangup` packet has been heard before, or
the failure has been raised before. -/
def Armed (turns : List (WiredTurn ω)) : Prop :=
  ∀ before event after, turns = before ++ .bridge (.room event) :: after → options.loses event = true →
    (run options sessionId controller before).bridge.listening = true →
    ¬ options.HeardHangup (inputs before) ∨ (run options sessionId controller before).bridge.failed = true

end

variable {options : BridgeOptions ρ ω} {sessionId : String} {controller : Controller} {turns : List (WiredTurn ω)}

theorem run_append {turn : WiredTurn ω} : run options sessionId controller (turns ++ [turn]) =
    step options sessionId (run options sessionId controller turns) turn := by
  rw [run, List.foldl_append]
  rfl

/-- The bridge runs by itself. -/
theorem bridge_run (turns : List (WiredTurn ω)) :
    (run options sessionId controller turns).bridge = options.run (inputs turns) := by
  induction turns using List.reverseRecOn with
  | nil => rfl
  | append_singleton turns turn ih =>
      rw [run_append, inputs, List.filterMap_append]
      cases turn with
      | bridge input =>
          show options.step (run options sessionId controller turns).bridge input = _
          rw [ih]
          exact BridgeOptions.run_append.symm
      | controller action =>
          show (run options sessionId controller turns).bridge = _
          rw [ih]
          simp [inputs]

/-- The calls are those of the bridge's handlers. -/
theorem invoked_run (turns : List (WiredTurn ω)) :
    (run options sessionId controller turns).invoked =
      (run options sessionId controller turns).bridge.history.filterMap (handlerCall sessionId) := by
  induction turns using List.reverseRecOn with
  | nil => rfl
  | append_singleton turns turn ih =>
      rw [run_append]
      cases turn with
      | controller action => exact ih
      | bridge input =>
          obtain ⟨added, hadded⟩ : ∃ added, (options.step (run options sessionId controller turns).bridge input).history =
              added ++ (run options sessionId controller turns).bridge.history := BridgeOptions.history_step
          show calls sessionId _ (options.step _ input) ++ (run options sessionId controller turns).invoked =
            (options.step _ input).history.filterMap _
          rw [ih, calls, hadded, List.filterMap_append, List.length_append, Nat.add_sub_cancel, List.take_left']
          rfl

theorem mediaFailures_run (turns : List (WiredTurn ω)) :
    mediaFailures (run options sessionId controller turns) =
      BridgeOptions.failures (run options sessionId controller turns).bridge := by
  rw [mediaFailures, invoked_run, List.countP_filterMap, BridgeOptions.failures]
  congr 1
  funext effect
  cases effect <;> rfl

/-- **A failed hangup disarms the detection of failures.**  The bridge calls `handleMediaFailure` at most once; and it
calls it whenever the agent or the room is lost, exactly if the bridge is armed whenever that happens. -/
theorem loss_reported (options : BridgeOptions ρ ω) (sessionId : String) (controller : Controller)
    (turns : List (WiredTurn ω)) :
    mediaFailures (run options sessionId controller turns) ≤ 1 ∧
      (LossReported options sessionId controller turns ↔ Armed options sessionId controller turns) := by
  constructor
  · rw [mediaFailures_run, bridge_run]
    have hraised : BridgeOptions.RaisedOnce (options.run (inputs turns)) := BridgeOptions.raisedOnce_run _
    have hcount := hraised.count
    have hle : (options.run (inputs turns)).failed.toNat ≤ 1 := Bool.toNat_le _
    omega
  · -- what a loss comes to, in terms of the bridge alone
    have hloss : ∀ before event, options.loses event = true →
        (run options sessionId controller before).bridge.listening = true →
        (mediaFailures (run options sessionId controller (before ++ [.bridge (.room event), .bridge .immediate])) = 1 ↔
          ¬ options.HeardHangup (inputs before) ∨ (run options sessionId controller before).bridge.failed = true) := by
      intro before event hloses hlistening
      have hsplit : before ++ [WiredTurn.bridge (Input.room event), .bridge .immediate] =
          (before ++ [.bridge (.room event)]) ++ [.bridge .immediate] := by simp
      have hraised : BridgeOptions.RaisedOnce (options.step (options.run (inputs before)) (.room event)) :=
        (BridgeOptions.raisedOnce_run (inputs before)).step
      rw [mediaFailures_run, hsplit, run_append, run_append]
      show BridgeOptions.failures (options.step (options.step (run options sessionId controller before).bridge
        (.room event)) .immediate) = 1 ↔ _
      rw [bridge_run] at hlistening ⊢
      rw [BridgeOptions.failures_immediate hraised, BridgeOptions.failed_of_loses hloses hlistening,
        ← BridgeOptions.hangingUp_run]
      cases (options.run (inputs before)).failed <;> cases (options.run (inputs before)).hangingUp <;> simp
    constructor
    · intro hreported before event after heq hloses hlistening
      exact (hloss before event hloses hlistening).mp (hreported before event after heq hloses hlistening)
    · intro harmed before event after heq hloses hlistening
      exact (hloss before event hloses hlistening).mpr (harmed before event after heq hloses hlistening)

end Wired

/-! ## A hangup that is refused -/

/-- A call is active and its bridge has started. -/
def sampleWired : List (WiredTurn Unit) :=
  (admitting 0 "call" "session" ++ activating 0).map .controller ++ BridgeOptions.sampleStarted.map .bridge

/-- The agent asks for a hangup, and the controller is refused the transition to `ending`. -/
def sampleRefused : List (WiredTurn Unit) :=
  let refusing := { Dependencies.willing with transition := .ok false }.respond
  sampleWired ++ [.bridge (.room (.dataReceived (some BridgeOptions.sampleHangup) (some BridgeOptions.sampleAgent)))] ++
    [.controller (.opBegin 0), .controller (.opAnswer 0 refusing), .controller (.opResume 0)]

/-- The sample's bridge and controller after some turns. -/
def Wired.after (turns : List (WiredTurn Unit)) : Wired Unit Unit :=
  .run BridgeOptions.sample "session" (Controller.initial sampleBinding) turns

/-- After a refused hangup the agent disconnects from a call that is still active, and nobody hears of it. -/
theorem disarmed_by_hangup :
    (¬ ∀ (ρ ω : Type) (options : BridgeOptions ρ ω) (sessionId : String) (controller : Controller)
      (turns : List (WiredTurn ω)), Wired.LossReported options sessionId controller turns) ∧
    (Wired.after sampleRefused).controller.calls = [("call", 0)] ∧
    ((Wired.after sampleRefused).controller.entry 0).map Entry.state = some .active := by
  refine ⟨?_, by decide +kernel, by decide +kernel⟩
  intro hall
  have hreported := hall Unit Unit BridgeOptions.sample "session" (Controller.initial sampleBinding)
    (sampleRefused ++ [.bridge (.room (.participantDisconnected (some BridgeOptions.sampleAgent)))])
    sampleRefused (.participantDisconnected (some BridgeOptions.sampleAgent)) [] rfl (by decide +kernel)
    (by decide +kernel : (Wired.after sampleRefused).bridge.listening = true)
  have hsilent : Wired.mediaFailures (Wired.after (sampleRefused ++
      [.bridge (.room (.participantDisconnected (some BridgeOptions.sampleAgent))), .bridge .immediate])) = 0 := by
    decide +kernel
  have hone : (0 : Nat) = 1 := hsilent.symm.trans hreported
  cases hone

end Connector
end VoiceAssistants
