import VoiceAssistants.Text
import VoiceAssistants.Async.Monitor
import VoiceAssistants.ThreeCx.CallState

/-!
# The operations of the call controller on one call (`connector/call-controller.mjs`)

A tracked call is an `Entry`.  Everything the controller does to it runs in operations chained on the entry's
promise `lock` (`#serialize`); this module translates their bodies: `startCall`, `handleMediaFailure`,
`handleCallHangup`, the drain of `shutdown`, `endCall` and `renewLease`, with the helpers `transition`,
`cleanup` and `fallbackRequest`.

The injected dependencies are the requests of the interface; each may return any value or throw.  A value is
modelled by what the code looks at: the truthiness of `transitionCall` and `renewCallLease`, whether
`handlePbxFallback` returned exactly `true`, the `dispatchId` string of a dispatch, and the bridge whose
`close` is a function.  An exception is its message.  `await` of an inner `async` function is `awaited`.
-/

namespace VoiceAssistants
namespace Connector

open Async ThreeCx

/-- The frozen `binding` of a controller. -/
structure TenantBinding where
  companyId : String
  authSubject : String
  timezone : String
  profileVersion : Int
  integrationId : String
  routePointDn : String
  dids : List String
  transferDestinations : List String
  failureAction : String
  failureDestination : Option String
  deriving DecidableEq, Repr

/-- A media bridge returned by `attachMedia`; its `close` is `entry.closeMedia`. -/
abbrev MediaBridge := Nat

/-- An entry of the `calls` map.  `leaseTimer` is whether a renewal timer is armed; the promise `lock` is the
queue of the monitor that holds the entry. -/
structure Entry where
  callId : String
  claimToken : String
  roomName : String
  participantId : Int
  state : CallState
  sessionId : String
  dispatchId : Option String
  closeMedia : Option MediaBridge
  leaseTimer : Bool
  consecutiveRenewFailures : Nat
  leaseLost : Bool
  deriving DecidableEq, Repr

/-- The argument of `transitionCall`. -/
structure TransitionRequest where
  companyId : String
  pbxCallId : String
  claimToken : String
  expectedState : CallState
  newState : CallState
  livekitDispatchId : Option String
  deriving DecidableEq, Repr

/-- The argument of `claimCall`. -/
structure ClaimRequest where
  companyId : String
  integrationId : String
  pbxCallId : String
  eventId : String
  eventType : String
  did : String
  direction : String
  deriving DecidableEq, Repr

/-- What the code reads of a `claimCall` result. -/
structure ClaimReply where
  claimed : Bool
  reason : Option String
  claimToken : Option String
  livekitRoom : Option String
  deriving DecidableEq, Repr

/-- The argument of `renewCallLease`. -/
structure RenewRequest where
  companyId : String
  integrationId : String
  pbxCallId : String
  claimToken : String
  sessionId : String
  deriving DecidableEq, Repr

/-- The argument of `dispatchAgent`. -/
structure DispatchRequest where
  companyId : String
  authSubject : String
  timezone : String
  profileVersion : Int
  integrationId : String
  sessionId : String
  roomName : String
  userIdentity : String
  deriving DecidableEq, Repr

/-- The argument of `attachMedia`. -/
structure MediaRequest where
  sessionId : String
  roomName : String
  dispatchId : String
  pbxParticipantId : Int
  deriving DecidableEq, Repr

/-- The argument of `stopAgent`. -/
structure StopRequest where
  companyId : String
  integrationId : String
  sessionId : String
  roomName : String
  dispatchId : String
  deriving DecidableEq, Repr

/-- The argument of `handlePbxFallback`. -/
structure FallbackRequest where
  companyId : String
  integrationId : String
  pbxParticipantId : Int
  sessionId : String
  reason : String
  failureAction : String
  failureDestination : Option String
  deriving DecidableEq, Repr

/-- A call of an injected dependency, or of the `close` of a media bridge. -/
inductive Request
  | claimCall (input : ClaimRequest)
  | transitionCall (input : TransitionRequest)
  | renewCallLease (input : RenewRequest)
  | dispatchAgent (input : DispatchRequest)
  | attachMedia (input : MediaRequest)
  | closeMedia (bridge : MediaBridge)
  | stopAgent (input : StopRequest)
  | handlePbxFallback (input : FallbackRequest)
  deriving DecidableEq, Repr

/-- What the code reads of a dependency's return value. -/
def Request.Answer : Request → Type
  | claimCall _ => ClaimReply
  | transitionCall _ => Bool
  | renewCallLease _ => Bool
  | dispatchAgent _ => Option String
  | attachMedia _ => Option MediaBridge
  | closeMedia _ => Unit
  | stopAgent _ => Unit
  | handlePbxFallback _ => Bool

/-- Synchronous effects outside the entry: `calls.delete(entry.callId)` and `onDecision({ reason })`. -/
inductive Output
  | forget
  | decision (reason : String)
  deriving DecidableEq, Repr

/-- The operations on a call work on its entry. -/
abbrev callInterface : Interface where
  State := Entry
  Output := Output
  Request := Request
  Answer := Request.Answer
  Error := String

/-- The body of an operation on a call. -/
abbrev CallProgram := Program callInterface

/-- The result of an operation. -/
structure Decision where
  accepted : Bool
  reason : String
  deriving DecidableEq, Repr

/-- What `#decision` returns. -/
def Decision.of (reason : String) : Decision :=
  ⟨reason == "call_active", reason⟩

/-- `#decision`: report the reason; an exception of the observer is swallowed. -/
def decision (reason : String) : CallProgram Decision := do
  Program.output (I := callInterface) (.decision reason)
  return .of reason

/-- `this.calls.delete(entry.callId)`. -/
def forget : CallProgram Unit :=
  Program.output (I := callInterface) .forget

/-- `#scheduleLeaseRenewal`. -/
def scheduleLeaseRenewal (entry : Entry) : Entry :=
  if entry.state ≠ .active ∨ entry.leaseTimer ∨ entry.leaseLost then entry
  else { entry with leaseTimer := true }

/-- `#clearLeaseRenewal`. -/
def clearLeaseRenewal (entry : Entry) : Entry :=
  { entry with leaseTimer := false }

/-- The argument `#transition` passes to `transitionCall`. -/
def transitionRequest (binding : TenantBinding) (entry : Entry) (newState : CallState)
    (dispatchId : Option String) : TransitionRequest where
  companyId := binding.companyId
  pbxCallId := entry.callId
  claimToken := entry.claimToken
  expectedState := entry.state
  newState := newState
  livekitDispatchId := dispatchId

/-- `#transition`. -/
def transition (binding : TenantBinding) (newState : CallState) (dispatchId : Option String) :
    CallProgram Bool := do
  let entry ← Program.get (I := callInterface)
  let updated : Bool ← Program.request (I := callInterface)
    (.transitionCall (transitionRequest binding entry newState dispatchId))
  if updated then
    Program.modify (I := callInterface) fun entry => { entry with state := newState }
    return true
  else
    return false

/-- The argument of `stopAgent` for a call. -/
def stopRequest (binding : TenantBinding) (entry : Entry) (dispatchId : String) : StopRequest where
  companyId := binding.companyId
  integrationId := binding.integrationId
  sessionId := entry.sessionId
  roomName := entry.roomName
  dispatchId := dispatchId

/-- The first half of `#cleanup`: close the media bridge, if any. -/
def closeBridge : CallProgram Bool := do
  let entry ← Program.get (I := callInterface)
  match entry.closeMedia with
  | none => return true
  | some bridge =>
      match ← (Program.request (I := callInterface) (.closeMedia bridge)).attempt with
      | .ok _ =>
          Program.modify (I := callInterface) fun entry => { entry with closeMedia := none }
          return true
      | .error _ => return false

/-- The second half of `#cleanup`: stop the agent, if one was dispatched. -/
def stopDispatch (binding : TenantBinding) : CallProgram Bool := do
  let entry ← Program.get (I := callInterface)
  match entry.dispatchId with
  | none => return true
  | some dispatchId =>
      match ← (Program.request (I := callInterface)
        (.stopAgent (stopRequest binding entry dispatchId))).attempt with
      | .ok _ =>
          Program.modify (I := callInterface) fun entry => { entry with dispatchId := none }
          return true
      | .error _ => return false

/-- `#cleanup`: whether every resource of the call is released. -/
def cleanup (binding : TenantBinding) : CallProgram Bool := do
  Program.modify (I := callInterface) clearLeaseRenewal
  let closed ← closeBridge
  let stopped ← stopDispatch binding
  return closed && stopped

/-- `#fallbackRequest`. -/
def fallbackRequest (binding : TenantBinding) (entry : Entry) (reason : String) : FallbackRequest where
  companyId := binding.companyId
  integrationId := binding.integrationId
  pbxParticipantId := entry.participantId
  sessionId := entry.sessionId
  reason := reason
  failureAction := binding.failureAction
  failureDestination := if binding.failureAction = "transfer" then binding.failureDestination else none

/-- The fallback request of a hangup: always a disconnect. -/
def hangupRequest (binding : TenantBinding) (entry : Entry) (reason : String) : FallbackRequest where
  companyId := binding.companyId
  integrationId := binding.integrationId
  pbxParticipantId := entry.participantId
  sessionId := entry.sessionId
  reason := reason
  failureAction := "disconnect"
  failureDestination := none

/-- `try { complete = await this.handlePbxFallback(request) === true } catch {}`. -/
def pbxFallback (request : Entry → FallbackRequest) : CallProgram Bool := do
  let entry ← Program.get (I := callInterface)
  match ← (Program.request (I := callInterface) (.handlePbxFallback (request entry))).attempt with
  | .ok complete => return complete
  | .error _ => return false

/-- `try { recorded = await this.#transition(entry, newState) } catch {}`. -/
def tryTransition (binding : TenantBinding) (newState : CallState) : CallProgram Bool := do
  match ← (transition binding newState none).awaited.attempt with
  | .ok recorded => return recorded
  | .error _ => return false

/-- The stage of `#startCall` at which an exception was caught. -/
inductive StartStage
  | claim
  | dispatch
  | media
  | activation
  deriving DecidableEq, Repr

/-- `classifyFailure`. -/
def classifyFailure (stage : StartStage) (error : String) : String :=
  match stage with
  | .claim => "claim_transition_failed"
  | .media => "media_bridge_failed"
  | .activation => if error = "active_transition_lost" then "active_transition_lost" else "call_start_failed"
  | .dispatch => "dispatch_failed"

/-- The `catch` block of `#startCall`. -/
def startFailed (binding : TenantBinding) (stage : StartStage) (error : String) : CallProgram Decision := do
  let cleanupComplete ← (cleanup binding).awaited
  let failureReason := classifyFailure stage error
  if cleanupComplete then
    let endingRecorded ← tryTransition binding .ending
    if endingRecorded then
      let fallbackComplete ← pbxFallback fun entry => fallbackRequest binding entry failureReason
      if fallbackComplete then
        let failureRecorded ← tryTransition binding .failed
        if failureRecorded then
          forget
          decision failureReason
        else
          decision "state_update_failed"
      else
        decision "failure_fallback_incomplete"
    else
      decision "state_update_failed"
  else
    let _ ← tryTransition binding .ending
    decision "cleanup_incomplete"

/-- The argument of `dispatchAgent` for a call. -/
def dispatchRequest (binding : TenantBinding) (entry : Entry) : DispatchRequest where
  companyId := binding.companyId
  authSubject := binding.authSubject
  timezone := binding.timezone
  profileVersion := binding.profileVersion
  integrationId := binding.integrationId
  sessionId := entry.sessionId
  roomName := entry.roomName
  userIdentity := "threecx-" ++ entry.sessionId

/-- The argument of `attachMedia` for a call. -/
def mediaRequest (entry : Entry) (dispatchId : String) : MediaRequest where
  sessionId := entry.sessionId
  roomName := entry.roomName
  dispatchId := dispatchId
  pbxParticipantId := entry.participantId

/-- `#startCall` once the call is connecting: dispatch, attach the media, activate.  Every exit to the
`catch` block names the stage reached. -/
def connectCall (binding : TenantBinding) : CallProgram Decision := do
  let entry ← Program.get (I := callInterface)
  match ← (Program.request (I := callInterface) (.dispatchAgent (dispatchRequest binding entry))).attempt with
  | .error error => startFailed binding .dispatch error
  | .ok dispatch =>
      Program.modify (I := callInterface) fun entry =>
        { entry with dispatchId := boundedString dispatch 255 }
      match boundedString dispatch 255 with
      | none => startFailed binding .dispatch "dispatch_not_created"
      | some dispatchId =>
          let entry ← Program.get (I := callInterface)
          match ← (Program.request (I := callInterface) (.attachMedia (mediaRequest entry dispatchId))).attempt with
          | .error error => startFailed binding .media error
          | .ok none => startFailed binding .media "media_bridge_not_ready"
          | .ok (some bridge) =>
              Program.modify (I := callInterface) fun entry => { entry with closeMedia := some bridge }
              match ← (transition binding .active (some dispatchId)).awaited.attempt with
              | .error error => startFailed binding .activation error
              | .ok false => startFailed binding .activation "active_transition_lost"
              | .ok true =>
                  Program.modify (I := callInterface) scheduleLeaseRenewal
                  decision "call_active"

/-- `#startCall`. -/
def startCall (binding : TenantBinding) : CallProgram Decision := do
  match ← (transition binding .connecting none).awaited.attempt with
  | .error error => startFailed binding .claim error
  | .ok false =>
      let _ ← (cleanup binding).awaited
      forget
      decision "claim_transition_lost"
  | .ok true => connectCall binding

/-- `if (entry.state !== "ending" && !(await this.#transition(entry, "ending")))`, negated. -/
def ensureEnding (binding : TenantBinding) : CallProgram Bool := do
  let entry ← Program.get (I := callInterface)
  if entry.state = .ending then return true
  else (transition binding .ending none).awaited

/-- The operation that `handleMediaFailure` serialises. -/
def handleMediaFailure (binding : TenantBinding) (reason : String) : CallProgram Decision := do
  Program.modify (I := callInterface) clearLeaseRenewal
  let entry ← Program.get (I := callInterface)
  if entry.state.Terminal then decision "media_failure_call_terminal"
  else if ← ensureEnding binding then
    if ← (cleanup binding).awaited then
      if ← pbxFallback fun entry => fallbackRequest binding entry reason then
        if ← (transition binding .failed none).awaited then
          forget
          decision "call_failed_after_media_fallback"
        else decision "media_failure_state_update_failed"
      else decision "media_failure_fallback_incomplete"
    else decision "media_failure_cleanup_incomplete"
  else decision "media_failure_state_update_failed"

/-- The operation that `handleCallHangup` serialises.  `hangupComplete` is computed and not looked at. -/
def handleCallHangup (binding : TenantBinding) (reason : String) : CallProgram Decision := do
  Program.modify (I := callInterface) clearLeaseRenewal
  let entry ← Program.get (I := callInterface)
  if entry.state.Terminal then decision "already_terminal"
  else if ← ensureEnding binding then
    if ← (cleanup binding).awaited then
      let _hangupComplete ← pbxFallback fun entry => hangupRequest binding entry reason
      if ← (transition binding .ended none).awaited then
        forget
        decision "call_ended_normally"
      else decision "end_transition_lost"
    else decision "cleanup_incomplete"
  else decision "end_transition_lost"

/-- The operation that `shutdown` serialises for every tracked call. -/
def drain (binding : TenantBinding) : CallProgram Decision := do
  Program.modify (I := callInterface) clearLeaseRenewal
  let entry ← Program.get (I := callInterface)
  if entry.state.Terminal then
    forget
    decision "already_terminal"
  else if ← (if entry.state ≠ .claimed ∧ entry.state ≠ .ending then
      (transition binding .ending none).awaited else return true) then
    if ← (cleanup binding).awaited then
      if ← pbxFallback fun entry => fallbackRequest binding entry "connector_shutdown" then
        if ← (transition binding .ended none).awaited then
          forget
          decision "call_ended_for_shutdown"
        else decision "shutdown_state_update_failed"
      else decision "shutdown_fallback_incomplete"
    else decision "shutdown_cleanup_incomplete"
  else decision "shutdown_transition_lost"

/-- The `try` block of the operation that `#endCall` serialises. -/
def endCallBody (binding : TenantBinding) : CallProgram Decision := do
  Program.modify (I := callInterface) clearLeaseRenewal
  let entry ← Program.get (I := callInterface)
  if entry.state.Terminal then decision "already_terminal"
  else if entry.state = .claimed then
    if ← (transition binding .ended none).awaited then
      forget
      decision "call_ended"
    else decision "end_transition_lost"
  else if ← ensureEnding binding then
    if ← (cleanup binding).awaited then
      if ← (transition binding .ended none).awaited then
        forget
        decision "call_ended"
      else decision "end_transition_lost"
    else decision "cleanup_incomplete"
  else decision "end_transition_lost"

/-- The operation that `#endCall` serialises. -/
def endCall (binding : TenantBinding) : CallProgram Decision := do
  match ← (endCallBody binding).attempt with
  | .ok result => return result
  | .error _ => decision "end_transition_failed"

/-- The argument of `renewCallLease` for a call. -/
def renewRequest (binding : TenantBinding) (entry : Entry) : RenewRequest where
  companyId := binding.companyId
  integrationId := binding.integrationId
  pbxCallId := entry.callId
  claimToken := entry.claimToken
  sessionId := entry.sessionId

/-- `#renewLease` once the renewal is reported lost. -/
def leaseLost (binding : TenantBinding) : CallProgram Decision := do
  Program.modify (I := callInterface) fun entry => { entry with leaseLost := true }
  Program.modify (I := callInterface) clearLeaseRenewal
  let transitioned ← (transition binding .ending none).awaited
  if ← (cleanup binding).awaited then
    if ← pbxFallback fun entry => fallbackRequest binding entry "call_claim_lease_lost" then
      if transitioned then
        if ← (transition binding .ended none).awaited then
          forget
          decision "call_ended_after_lease_loss"
        else decision "lease_lost_state_update_failed"
      else decision "lease_lost_state_update_failed"
    else decision "lease_lost_fallback_incomplete"
  else decision "lease_lost_cleanup_incomplete"

/-- `#renewLease`. -/
def renewLease (binding : TenantBinding) : CallProgram Decision := do
  let entry ← Program.get (I := callInterface)
  if entry.state ≠ .active then decision "lease_renewal_skipped"
  else
    match ← (Program.request (I := callInterface) (.renewCallLease (renewRequest binding entry))).attempt with
    | .ok true =>
        Program.modify (I := callInterface) fun entry => { entry with consecutiveRenewFailures := 0 }
        decision "lease_renewed"
    | .ok false => leaseLost binding
    | .error _ =>
        Program.modify (I := callInterface) fun entry =>
          { entry with consecutiveRenewFailures := entry.consecutiveRenewFailures + 1 }
        let entry ← Program.get (I := callInterface)
        if entry.consecutiveRenewFailures < 2 then decision "lease_renewal_retry"
        else leaseLost binding

/-- An operation queued on a call. -/
inductive CallOp
  | start
  | mediaFailure (reason : String)
  | hangup (reason : String)
  | pbxEnd
  | drain
  | renew
  deriving DecidableEq, Repr

/-- The body of a queued operation. -/
def CallOp.body (binding : TenantBinding) : CallOp → CallProgram Decision
  | start => startCall binding
  | mediaFailure reason => handleMediaFailure binding reason
  | hangup reason => handleCallHangup binding reason
  | pbxEnd => endCall binding
  | drain => Connector.drain binding
  | renew => renewLease binding

/-- An entry with the operations queued on its lock. -/
abbrev CallMonitor := Monitor callInterface CallOp Decision

end Connector
end VoiceAssistants
