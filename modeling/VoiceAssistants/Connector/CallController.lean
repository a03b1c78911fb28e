import Mathlib.Logic.Function.Basic
import VoiceAssistants.Async.Run
import VoiceAssistants.Connector.CallOperations

/-!
# The call controller (`ThreeCxCallController`)

The state of one controller and everything that can happen to it, one turn of the event loop at a time:

* the public methods are called (`handleEvent`, `handleMediaFailure`, `handleCallHangup`, `shutdown`);
* a dependency answers a join or the operation in progress on a call (`joinAnswer`, `opAnswer`);
* a suspended join or operation gets its next turn, a queued operation starts, a promise is settled
  (`joinResume`, `opBegin`, `opResume`, `joinSettle`, `joinFinally`, `shutdownStep`);
* a renewal timer fires, or the `finally` of a settled renewal runs (`timerFires`, `renewalSettled`).

`Controller.step` is one such turn; any order of turns is a run.  Entries live in `cells`, indexed by the
order of their creation, and `calls` maps call ids to them in insertion order, as the `Map` does.
-/

namespace VoiceAssistants
namespace Connector

open Async ThreeCx

/-- `ROUTE_POINT_JOIN`. -/
def ROUTE_POINT_JOIN : String := "routepoint_participant_connected"

/-- `ROUTE_POINT_END`. -/
def ROUTE_POINT_END : String := "routepoint_call_ended"

/-- `MEDIA_FAILURE_REASONS`. -/
def MEDIA_FAILURE_REASONS : List String :=
  ["agent_audio_stream_failed", "agent_audio_unsubscribed", "verified_agent_disconnected",
    "livekit_room_disconnected", "pbx_audio_stream_ended", "pbx_audio_stream_failed",
    "pbx_audio_queue_overflow"]

/-- A normalised PBX event.  A field is `none` when it is missing or not of its type (a string; an integer
for `participantId`). -/
structure CallEvent where
  type : Option String
  callId : Option String
  eventId : Option String
  did : Option String
  participantId : Option Int
  routePointDn : Option String
  direction : Option String
  deriving DecidableEq, Repr

/-- `/^threecx-[0-9a-f]{32}$/i.test(roomName)`. -/
def isRoomName (roomName : String) : Bool :=
  let lower := roomName.toList.map Char.toLower
  let digits := lower.drop 8
  lower.take 8 == "threecx-".toList && digits.length == 32 && digits.all fun c => (hexDigit c).isSome

/-- A join works on no entry yet; it uses the same dependencies. -/
abbrev joinInterface : Interface where
  State := Unit
  Output := Output
  Request := Request
  Answer := Request.Answer
  Error := String

/-- What `#handleJoinEvent` comes to: a decision, or a new entry whose `#startCall` is serialised. -/
inductive JoinOutcome
  | decided (result : Decision)
  | admitted (entry : Entry)

/-- The body of a join before the entry exists. -/
abbrev JoinProgram := Program joinInterface

/-- `return this.#decision(reason)` in a join. -/
def joinDecision (reason : String) : JoinProgram JoinOutcome := do
  Program.output (I := joinInterface) (.decision reason)
  return .decided (.of reason)

/-- `#bestEffortFailure`. -/
def bestEffortFailure (binding : TenantBinding) (callId : String) (claimToken : Option String)
    (reason : String) : JoinProgram Unit :=
  match claimToken with
  | none => return ()
  | some token => do
      match ← (Program.request (I := joinInterface) (.transitionCall
        ⟨binding.companyId, callId, token, .claimed, .failed, none⟩)).attempt with
      | .ok _ => return ()
      | .error _ => Program.output (I := joinInterface) (.decision reason)

/-- The entry a join creates; `sessionId` is the result of `randomUUID()`. -/
def newEntry (callId claimToken roomName : String) (participantId : Int) (sessionId : String) : Entry where
  callId := callId
  claimToken := claimToken
  roomName := roomName
  participantId := participantId
  state := .claimed
  sessionId := sessionId
  dispatchId := none
  closeMedia := none
  leaseTimer := false
  consecutiveRenewFailures := 0
  leaseLost := false

/-- `#handleJoinEvent` from its `claimCall` on. -/
def claimJoin (binding : TenantBinding) (callId eventId did eventType sessionId : String)
    (participantId : Int) : JoinProgram JoinOutcome := do
  match ← (Program.request (I := joinInterface) (.claimCall
    ⟨binding.companyId, binding.integrationId, callId, eventId, eventType, did, "inbound"⟩)).attempt with
  | .error _ => joinDecision "claim_failed"
  | .ok claim =>
      if claim.claimed then
        let claimToken := boundedString claim.claimToken 128
        match claimToken, (boundedString claim.livekitRoom 128).filter isRoomName with
        | some token, some roomName =>
            return .admitted (newEntry callId token roomName participantId sessionId)
        | _, _ =>
            (bestEffortFailure binding callId claimToken "claimed_call_invalid").awaited
            joinDecision "claimed_call_invalid"
      else if claim.reason = some "duplicate_event" then joinDecision "duplicate_event"
      else joinDecision "call_not_claimed"

/-- `#handleJoinEvent`. -/
def handleJoinEvent (binding : TenantBinding) (event : CallEvent) (sessionId : String) :
    JoinProgram JoinOutcome :=
  if event.type ≠ some ROUTE_POINT_JOIN then joinDecision "unsupported_event"
  else
    match boundedString event.callId 255, boundedString event.eventId 255, boundedString event.did 64,
      event.participantId with
    | some callId, some eventId, some did, some participantId =>
        if participantId < 1 ∨ event.routePointDn ≠ some binding.routePointDn then
          joinDecision "invalid_route_point_event"
        else if event.direction ≠ some "inbound" then joinDecision "unsupported_direction"
        else if did ∉ binding.dids then joinDecision "unconfigured_did"
        else claimJoin binding callId eventId did ROUTE_POINT_JOIN sessionId participantId
    | _, _, _, _ => joinDecision "invalid_route_point_event"

/-- A join in progress: its body, the wait for its entry's `#startCall`, and its settled promise. -/
inductive JoinPhase
  | claiming (residual : JoinProgram JoinOutcome)
  | starting (cell : Nat)
  | settled (result : Except String Decision)
  | finished (result : Except String Decision)

/-- A join with the marks its body has made. -/
structure JoinTask where
  phase : JoinPhase
  marks : List (Mark joinInterface)

/-- An entry with its queue.  `renewalUnsettled` is whether the `finally` of a finished renewal has still to
run. -/
structure Cell where
  monitor : CallMonitor
  renewalUnsettled : Bool

/-- `shutdown`: waiting for the joins in flight, draining one entry after the other, settled. -/
inductive ShutdownPhase
  | waitingJoins (joins : List Nat)
  | draining (cell ticket : Nat) (rest : List Nat)
  | resolved (stopped : Bool)
  | rejected (error : String)
  deriving DecidableEq, Repr

/-- A call of `shutdown`: `tracked` are the entries it found and `drained` those it has drained, each with the
ticket of its operation and its decision. -/
structure ShutdownTask where
  phase : ShutdownPhase
  tracked : List Nat
  drained : List (Nat × Nat × Decision)
  deriving DecidableEq, Repr

/-- A controller.  `claims` is a record of the call ids `claimCall` reported as claimed. -/
structure Controller where
  binding : TenantBinding
  calls : List (String × Nat)
  inflightJoins : List Nat
  stopping : Bool
  cells : Nat → Option Cell
  cellCount : Nat
  joins : Nat → Option JoinTask
  joinCount : Nat
  shutdowns : Nat → Option ShutdownTask
  shutdownCount : Nat
  claims : List String

/-- What a public method returns: a decision at once, or the promise of a queued operation or of a join. -/
inductive Reply
  | decided (result : Decision)
  | serialized (cell ticket : Nat)
  | joining (join : Nat)

/-- Everything that can happen to a controller. -/
inductive Action
  | handleEvent (event : Option CallEvent) (sessionId : String)
  | handleMediaFailure (sessionId reason : Option String)
  | handleCallHangup (sessionId : Option String) (reason : String)
  | shutdown
  | joinAnswer (join : Nat) (respond : (q : Request) → Except String q.Answer)
  | joinResume (join : Nat)
  | joinSettle (join : Nat)
  | joinFinally (join : Nat)
  | opBegin (cell : Nat)
  | opAnswer (cell : Nat) (respond : (q : Request) → Except String q.Answer)
  | opResume (cell : Nat)
  | timerFires (cell : Nat)
  | renewalSettled (cell : Nat)
  | shutdownStep (task : Nat)

namespace Controller

/-- The controller before its first event. -/
def initial (binding : TenantBinding) : Controller where
  binding := binding
  calls := []
  inflightJoins := []
  stopping := false
  cells := fun _ => none
  cellCount := 0
  joins := fun _ => none
  joinCount := 0
  shutdowns := fun _ => none
  shutdownCount := 0
  claims := []

/-- The entry of a cell. -/
def entry (c : Controller) (id : Nat) : Option Entry :=
  (c.cells id).map (·.monitor.state)

/-- `calls.get(callId)`. -/
def lookup (c : Controller) (callId : String) : Option Nat :=
  (c.calls.find? fun tracked => tracked.1 = callId).map Prod.snd

/-- `[...calls.values()].find((call) => call.sessionId === sessionId)`. -/
def findSession (c : Controller) (sessionId : String) : Option Nat :=
  (c.calls.map Prod.snd).find? fun id => (c.entry id).any fun entry => entry.sessionId = sessionId

/-- `calls.set(callId, entry)`: an existing key keeps its place. -/
def setCall (calls : List (String × Nat)) (callId : String) (id : Nat) : List (String × Nat) :=
  if calls.any fun tracked => tracked.1 = callId then
    calls.map fun tracked => if tracked.1 = callId then (callId, id) else tracked
  else calls ++ [(callId, id)]

/-- `calls.delete(callId)`. -/
def deleteCall (calls : List (String × Nat)) (callId : String) : List (String × Nat) :=
  calls.filter fun tracked => tracked.1 ≠ callId

/-- Store a cell. -/
def setCell (c : Controller) (id : Nat) (cell : Cell) : Controller :=
  { c with cells := Function.update c.cells id (some cell) }

/-- Queue an operation on an entry (`#serialize`). -/
def serialize (c : Controller) (id : Nat) (op : CallOp) : Controller :=
  match c.cells id with
  | some cell => c.setCell id { cell with monitor := cell.monitor.enqueue op }
  | none => c

/-- Whether a mark is `calls.delete(entry.callId)`. -/
def forgets (mark : CallOp × Mark callInterface) : Bool :=
  match mark.2.event with
  | .emitted .forget => true
  | _ => false

/-- The marks a step of a monitor has added. -/
def newMarks (old new : CallMonitor) : List (CallOp × Mark callInterface) :=
  new.history.drop old.history.length

/-- Whether a renewal has settled between two states of a monitor. -/
def renewalFinished (old new : CallMonitor) : Bool :=
  (new.settled.drop old.settled.length).any fun episode => episode.op = .renew

/-- A step of the monitor of an entry: its `forget` outputs act on the map, and a settled renewal leaves its
`finally` to run. -/
def runCell (c : Controller) (id : Nat) (cell : Cell) (monitor : CallMonitor) : Controller :=
  let c := c.setCell id ⟨monitor, cell.renewalUnsettled || renewalFinished cell.monitor monitor⟩
  if (newMarks cell.monitor monitor).any forgets then
    { c with calls := deleteCall c.calls monitor.state.callId }
  else c

/-- `#startCall` is queued on a new entry, which is put in the map. -/
def track (c : Controller) (join : Nat) (marks : List (Mark joinInterface)) (entry : Entry) : Controller :=
  { c with
    cells := Function.update c.cells c.cellCount (some ⟨Monitor.opened entry .start, false⟩)
    cellCount := c.cellCount + 1
    calls := setCall c.calls entry.callId c.cellCount
    joins := Function.update c.joins join (some ⟨.starting c.cellCount, marks⟩) }

/-- Run the body of a join up to its next suspension; a decision settles it, an entry is admitted. -/
def runJoin (c : Controller) (join : Nat) (own : List (Mark joinInterface)) (p : JoinProgram JoinOutcome) :
    Controller :=
  let segment := p.advance ()
  let marks := own ++ segment.marks
  match segment.residual with
  | .done (.ok (.admitted entry)) => c.track join marks entry
  | .done (.ok (.decided result)) =>
      { c with joins := Function.update c.joins join (some ⟨.settled (.ok result), marks⟩) }
  | .done (.error error) =>
      { c with joins := Function.update c.joins join (some ⟨.settled (.error error), marks⟩) }
  | residual => { c with joins := Function.update c.joins join (some ⟨.claiming residual, marks⟩) }

/-- `return this.#serialize(entry, operation)`. -/
def queue (c : Controller) (id : Nat) (op : CallOp) : Controller × Reply :=
  match c.cells id with
  | some cell => (c.serialize id op, .serialized id cell.monitor.issued)
  | none => (c, .decided (.of "call_not_tracked"))

/-- `return this.#decision(reason)` in a public method. -/
def refuse (c : Controller) (reason : String) : Controller × Reply :=
  (c, .decided (.of reason))

/-- `#endCall`: look the call up and queue the end operation. -/
def endEvent (c : Controller) (event : CallEvent) : Controller × Reply :=
  match boundedString event.callId 255, boundedString event.eventId 255 with
  | some callId, some _ =>
      if event.routePointDn ≠ some c.binding.routePointDn then c.refuse "invalid_end_event"
      else
        match c.lookup callId with
        | some id => c.queue id .pbxEnd
        | none => c.refuse "call_not_tracked"
  | _, _ => c.refuse "invalid_end_event"

/-- `handleEvent`. -/
def handleEvent (c : Controller) (event : Option CallEvent) (sessionId : String) : Controller × Reply :=
  match event with
  | none => c.refuse "invalid_event"
  | some event =>
      if event.type = some ROUTE_POINT_END then c.endEvent event
      else if c.stopping then c.refuse "controller_stopping"
      else
        let join := c.joinCount
        let started := { c with joinCount := join + 1, inflightJoins := c.inflightJoins ++ [join] }
        (started.runJoin join [] (handleJoinEvent c.binding event sessionId), .joining join)

/-- `handleMediaFailure`, up to the operation it serialises. -/
def mediaFailureEvent (c : Controller) (sessionId reason : Option String) : Controller × Reply :=
  match boundedString sessionId 255, reason with
  | some sessionId, some reason =>
      if reason ∉ MEDIA_FAILURE_REASONS then c.refuse "invalid_media_failure"
      else
        match c.findSession sessionId with
        | some id => c.queue id (.mediaFailure reason)
        | none => c.refuse "media_failure_call_not_tracked"
  | _, _ => c.refuse "invalid_media_failure"

/-- `handleCallHangup`, up to the operation it serialises. -/
def callHangupEvent (c : Controller) (sessionId : Option String) (reason : String) : Controller × Reply :=
  match boundedString sessionId 255 with
  | some sessionId =>
      match c.findSession sessionId with
      | some id => c.queue id (.hangup reason)
      | none => c.refuse "call_not_tracked"
  | none => c.refuse "invalid_call_hangup"

/-- The call id of a join whose `claimCall` is answered with `claimed`. -/
def claimedCall (respond : (q : Request) → Except String q.Answer) : Request → List String
  | .claimCall input =>
      match respond (.claimCall input) with
      | .ok reply => if reply.claimed then [input.pbxCallId] else []
      | .error _ => []
  | _ => []

/-- The answer to the call a join waits for. -/
def joinAnswer (c : Controller) (join : Nat) (respond : (q : Request) → Except String q.Answer) :
    Option Controller :=
  match c.joins join with
  | some ⟨.claiming (.call q next), marks⟩ =>
      let answered := marks ++ [⟨(), .answered q (respond q)⟩]
      some ({ c with claims := c.claims ++ claimedCall respond q }.runJoin join answered (next (respond q)))
  | _ => none

/-- The next turn of a join that awaits an inner function. -/
def joinResume (c : Controller) (join : Nat) : Option Controller :=
  match c.joins join with
  | some ⟨.claiming (.pause next), marks⟩ => some (c.runJoin join marks next)
  | _ => none

/-- The operation with a ticket on an entry has settled, with this outcome. -/
def outcome (c : Controller) (id ticket : Nat) : Option (Except String Decision) :=
  (c.cells id).bind fun cell => cell.monitor.outcome ticket

/-- The join's `#startCall` has settled, and with it the join. -/
def joinSettle (c : Controller) (join : Nat) : Option Controller :=
  match c.joins join with
  | some ⟨.starting id, marks⟩ =>
      match c.outcome id 0 with
      | some result => some { c with joins := Function.update c.joins join (some ⟨.settled result, marks⟩) }
      | none => none
  | _ => none

/-- The `finally` of `handleEvent`. -/
def joinFinally (c : Controller) (join : Nat) : Option Controller :=
  match c.joins join with
  | some ⟨.settled result, marks⟩ =>
      some { c with
        joins := Function.update c.joins join (some ⟨.finished result, marks⟩)
        inflightJoins := c.inflightJoins.filter (· ≠ join) }
  | _ => none

/-- The promise of a join has settled. -/
def joinIsSettled (c : Controller) (join : Nat) : Bool :=
  match c.joins join with
  | some ⟨.settled _, _⟩ | some ⟨.finished _, _⟩ => true
  | _ => false

/-- `shutdown` begins: no new joins, and the joins in flight are awaited. -/
def shutdown (c : Controller) : Controller :=
  { c with
    stopping := true
    shutdowns := Function.update c.shutdowns c.shutdownCount (some ⟨.waitingJoins c.inflightJoins, [], []⟩)
    shutdownCount := c.shutdownCount + 1 }

/-- The next iteration of the drain loop, or the end of `shutdown`. -/
def drainNext (c : Controller) (task : Nat) (tracked : List Nat) (drained : List (Nat × Nat × Decision)) :
    List Nat → Controller
  | [] =>
      { c with
        shutdowns := Function.update c.shutdowns task (some ⟨.resolved (c.calls.length == 0), tracked, drained⟩) }
  | id :: rest =>
      match c.cells id with
      | some cell =>
          { c.serialize id .drain with
            shutdowns := Function.update c.shutdowns task
              (some ⟨.draining id cell.monitor.issued rest, tracked, drained⟩) }
      | none => c

/-- The next turn of a `shutdown`. -/
def shutdownStep (c : Controller) (task : Nat) : Option Controller :=
  match c.shutdowns task with
  | some ⟨.waitingJoins joins, _, _⟩ =>
      if joins.all c.joinIsSettled then
        let tracked := c.calls.map Prod.snd
        some (c.drainNext task tracked [] tracked)
      else none
  | some ⟨.draining id ticket rest, tracked, drained⟩ =>
      match c.outcome id ticket with
      | some (.ok result) => some (c.drainNext task tracked (drained ++ [(id, ticket, result)]) rest)
      | some (.error error) =>
          some { c with shutdowns := Function.update c.shutdowns task (some ⟨.rejected error, tracked, drained⟩) }
      | none => none
  | _ => none

/-- The renewal timer of an entry fires. -/
def timerFires (c : Controller) (id : Nat) : Option Controller :=
  match c.cells id with
  | some cell =>
      if cell.monitor.state.leaseTimer then
        let monitor := cell.monitor.touch clearLeaseRenewal
        some (c.setCell id { cell with monitor := monitor.enqueue .renew })
      else none
  | none => none

/-- The `finally` of a settled renewal.  (The `catch` before it reports `lease_renewal_failed` and nothing
else.) -/
def renewalSettled (c : Controller) (id : Nat) : Option Controller :=
  match c.cells id with
  | some cell =>
      if cell.renewalUnsettled then
        some (c.setCell id ⟨cell.monitor.touch scheduleLeaseRenewal, false⟩)
      else none
  | none => none

/-- A step of the monitor of a cell. -/
def cellStep (c : Controller) (id : Nat) (step : CallMonitor → Option CallMonitor) : Option Controller :=
  match c.cells id with
  | some cell =>
      match step cell.monitor with
      | some monitor => some (c.runCell id cell monitor)
      | none => none
  | none => none

/-- One turn of the event loop. -/
def step (c : Controller) : Action → Option Controller
  | .handleEvent event sessionId => some (c.handleEvent event sessionId).1
  | .handleMediaFailure sessionId reason => some (c.mediaFailureEvent sessionId reason).1
  | .handleCallHangup sessionId reason => some (c.callHangupEvent sessionId reason).1
  | .shutdown => some c.shutdown
  | .joinAnswer join respond => c.joinAnswer join respond
  | .joinResume join => c.joinResume join
  | .joinSettle join => c.joinSettle join
  | .joinFinally join => c.joinFinally join
  | .opBegin id => c.cellStep id (Monitor.begin (CallOp.body c.binding))
  | .opAnswer id respond => c.cellStep id (Monitor.answer respond)
  | .opResume id => c.cellStep id Monitor.resume
  | .timerFires id => c.timerFires id
  | .renewalSettled id => c.renewalSettled id
  | .shutdownStep task => c.shutdownStep task

end Controller

/-! ## Runs with given answers -/

/-- What the dependencies answer at one moment. -/
structure Dependencies where
  claim : Except String ClaimReply
  transition : Except String Bool
  renew : Except String Bool
  dispatch : Except String (Option String)
  attach : Except String (Option MediaBridge)
  close : Except String Unit
  stop : Except String Unit
  fallback : Except String Bool

/-- The answer to a request. -/
def Dependencies.respond (d : Dependencies) : (q : Request) → Except String q.Answer
  | .claimCall _ => d.claim
  | .transitionCall _ => d.transition
  | .renewCallLease _ => d.renew
  | .dispatchAgent _ => d.dispatch
  | .attachMedia _ => d.attach
  | .closeMedia _ => d.close
  | .stopAgent _ => d.stop
  | .handlePbxFallback _ => d.fallback

/-- Dependencies that do what they are asked. -/
def Dependencies.willing : Dependencies where
  claim := .ok ⟨true, none, some "token", some "threecx-0123456789abcdef0123456789abcdef"⟩
  transition := .ok true
  renew := .ok true
  dispatch := .ok (some "dispatch")
  attach := .ok (some 0)
  close := .ok ()
  stop := .ok ()
  fallback := .ok true

/-- A tenant whose failed calls are disconnected. -/
def sampleBinding : TenantBinding where
  companyId := "11111111-1111-4111-8111-111111111111"
  authSubject := "subject"
  timezone := "UTC"
  profileVersion := 1
  integrationId := "integration"
  routePointDn := "800"
  dids := ["+15550100"]
  transferDestinations := []
  failureAction := "disconnect"
  failureDestination := none

/-- An inbound call on the tenant's route point. -/
def sampleJoin (callId eventId : String) : CallEvent where
  type := some ROUTE_POINT_JOIN
  callId := some callId
  eventId := some eventId
  did := some "+15550100"
  participantId := some 7
  routePointDn := some "800"
  direction := some "inbound"

/-- A call is claimed: its entry is the `join`-th. -/
def admitting (join : Nat) (callId sessionId : String) : List Action :=
  [.handleEvent (some (sampleJoin callId callId)) sessionId,
    .joinAnswer join Dependencies.willing.respond]

/-- `#startCall` of an entry succeeds. -/
def activating (id : Nat) : List Action :=
  let respond := Dependencies.willing.respond
  [.opBegin id, .opAnswer id respond, .opResume id, .opAnswer id respond, .opAnswer id respond,
    .opAnswer id respond, .opResume id]

/-- The state a run of the sample tenant's controller ends in. -/
def Controller.after (actions : List Action) : Controller :=
  (execute Controller.step (Controller.initial sampleBinding) actions).getD (Controller.initial sampleBinding)

/-- A run all of whose actions are enabled reaches the state it ends in. -/
theorem Controller.reaches_after {actions : List Action}
    (h : (execute Controller.step (Controller.initial sampleBinding) actions).isSome = true) :
    Reaches Controller.step Always (Controller.initial sampleBinding) (Controller.after actions) := by
  obtain ⟨c, hc⟩ := Option.isSome_iff_exists.mp h
  have hafter : Controller.after actions = c := by rw [Controller.after, hc, Option.getD_some]
  rw [hafter]
  exact Reaches.of_execute hc

example : (Controller.after (admitting 0 "call" "session" ++ activating 0)).entry 0 =
    some { newEntry "call" "token" "threecx-0123456789abcdef0123456789abcdef" 7 "session" with
      state := .active
      dispatchId := some "dispatch"
      closeMedia := some 0
      leaseTimer := true } := by
  decide +kernel

end Connector
end VoiceAssistants
