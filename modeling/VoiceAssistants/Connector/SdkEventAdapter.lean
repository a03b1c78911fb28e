import VoiceAssistants.Collections.OrderedMap
import VoiceAssistants.Connector.CallController

/-!
# The PBX event adapter (`ThreeCxSdkEventAdapter`)

The adapter listens to one PBX client.  Connection events change its flags at once; connection tasks and
participant events are chained on `eventQueue` and run one at a time.  `waiting` is the queue and `running` the task
at its head, suspended on `getFullInfo()`, on the inbound resolver, on `controller.handleEvent`, or between two
participants of a snapshot.  The resolver, the client and the controller answer by actions, with any outcome.

`shutdown()` acts on this state by its call of `stop()`.  A client delivers events only while `start()` has
registered the listeners.  SHA-256 is a parameter.

Four fields record what happened and are read by no definition below: `linkUp` says that the last connection event
was `connected`, `connections` counts the `connected` events, `opened` is the epoch in which `accepting` was last
set, and `reconciled` that of the last snapshot that was swept to its end, at the time it was requested.
-/

namespace VoiceAssistants
namespace Connector

open Async Collections

/-- The tenant's route point, and `createHash("sha256").update(text, "utf8").digest("hex")`. -/
structure AdapterConfig where
  routePointDn : String
  sha256Hex : String → String

/-- The fields of `CallParticipant.info` that are read; one is `none` when it is missing or not of its type. -/
structure ParticipantInfo where
  status : Option String
  participantUid : Option String
  dn : Option String
  partyDid : Option String
  partyDnType : Option String
  originatedByDn : Option String
  originatedByType : Option String
  callid : Option Int
  legid : Option Int
  deriving DecidableEq, Repr

/-- A `CallParticipant`; `id` is `Number(participant.id)` where that is an integer. -/
structure Participant where
  id : Option Int
  dn : Option String
  isExtensionParticipant : Option Bool
  info : Option ParticipantInfo
  deriving DecidableEq, Repr

/-- A participant of a snapshot; `number` is `Number(info.id ?? id)` where that is an integer. -/
structure SnapshotRow where
  number : Option Int
  info : ParticipantInfo
  deriving DecidableEq, Repr

/-- The route point's `participants` in the answer of `getFullInfo()`. -/
abbrev Snapshot := OrderedMap String SnapshotRow

/-- The argument of `resolveInboundCall`. -/
structure ResolveRequest where
  routePointDn : String
  participantDn : Option String
  partyDid : Option String
  partyDnType : Option String
  originatedByDn : Option String
  originatedByType : Option String
  status : Option String
  callId : Option Int
  legId : Option Int
  deriving DecidableEq, Repr

/-- What `resolveInboundCall` answers. -/
structure Resolution where
  did : Option String
  direction : Option String
  deriving DecidableEq, Repr

/-- A participant that has passed the gate. -/
structure PendingJoin where
  opaqueKey : String
  participantId : Int
  deriving DecidableEq, Repr

/-- `pbx-${opaqueKey}`. -/
def PendingJoin.callId (join : PendingJoin) : String :=
  "pbx-" ++ join.opaqueKey

/-- An operation of the queue. -/
inductive AdapterOp
  | connection (epoch : Nat) (isFirstConnection : Bool)
  | participantConnected (participant : Option Participant)
  | participantDisconnected (participantId : Option Int)
  deriving DecidableEq, Repr

/-- Where the operation in progress is suspended.  `rest` are the participants of the snapshot that are still to be
admitted; a participant event of its own has none. -/
inductive AdapterTask
  | fetching (epoch : Nat)
  | sweeping (callId : String) (participantId : Int) (rest : List (String × Int)) (current : Snapshot) (epoch : Nat)
  | returning (rest : List (String × SnapshotRow))
  | resolving (request : ResolveRequest) (join : PendingJoin) (rest : Option (List (String × SnapshotRow)))
  | joining (join : PendingJoin) (rest : Option (List (String × SnapshotRow)))
  | ending (participantId : Int) (callId : String)
  deriving DecidableEq

/-- A call of `controller.handleEvent`.  `swept` says that a reconciliation made it for a call that is gone;
`ready` is whether the PBX link was up and reconciled then. -/
structure Routed where
  event : CallEvent
  swept : Bool
  ready : Bool
  deriving DecidableEq, Repr

structure EventAdapter where
  accepting : Bool
  participantByCallId : OrderedMap String Int
  callIdByParticipantId : OrderedMap Int String
  started : Bool
  everConnected : Bool
  connectionEpoch : Nat
  waiting : List AdapterOp
  running : Option AdapterTask
  signals : List String
  routed : List Routed
  linkUp : Bool
  connections : Nat
  opened : Option Nat
  reconciled : Option Nat
  deriving DecidableEq

inductive AdapterAction
  | start
  | stop
  | connected
  | disconnected
  | clientError
  | extensionParticipantConnected
  | participantConnected (participant : Option Participant)
  | participantDisconnected (participantId : Option Int)
  | begin
  | fetched (outcome : Except String (Option Snapshot))
  | resolved (outcome : Except String (Option Resolution))
  | eventAnswered (outcome : Except String (Option String))
  | resume

namespace EventAdapter

/-- `new ThreeCxSdkEventAdapter(…)`. -/
def initial : EventAdapter where
  accepting := false
  participantByCallId := .empty
  callIdByParticipantId := .empty
  started := false
  everConnected := false
  connectionEpoch := 0
  waiting := []
  running := none
  signals := []
  routed := []
  linkUp := false
  connections := 0
  opened := none
  reconciled := none

/-- The PBX link is up, and the connection is the first one or a snapshot requested since it has been reconciled. -/
def ready (a : EventAdapter) : Bool :=
  a.linkUp && (a.connections == 1 || a.reconciled == some a.connectionEpoch)

/-- `#signal`. -/
def signal (a : EventAdapter) (reason : String) : EventAdapter :=
  { a with signals := a.signals ++ [reason] }

/-- `#enqueue`. -/
def enqueue (a : EventAdapter) (op : AdapterOp) : EventAdapter :=
  { a with waiting := a.waiting ++ [op] }

/-- `controller.handleEvent(event)`. -/
def route (a : EventAdapter) (event : CallEvent) (swept : Bool) : EventAdapter :=
  { a with routed := a.routed ++ [⟨event, swept, a.ready⟩] }

/-- The operation in progress settles with a signal. -/
def finish (a : EventAdapter) (reason : String) : EventAdapter :=
  { a.signal reason with running := none }

/-- `start`. -/
def start (a : EventAdapter) : EventAdapter :=
  { a with started := true }

/-- `stop`. -/
def stop (a : EventAdapter) : EventAdapter :=
  if a.started then { a with started := false, accepting := false } else a

/-- `handleConnected`. -/
def handleConnected (a : EventAdapter) : EventAdapter :=
  let epoch := a.connectionEpoch + 1
  { a with
    connectionEpoch := epoch
    everConnected := true
    linkUp := true
    connections := a.connections + 1 }.enqueue (.connection epoch (!a.everConnected))

/-- `handleClientDisconnected`. -/
def handleClientDisconnected (a : EventAdapter) : EventAdapter :=
  { a with connectionEpoch := a.connectionEpoch + 1, accepting := false, linkUp := false }.signal "pbx_disconnected"

/-- The event of a join. -/
def joinEvent (config : AdapterConfig) (join : PendingJoin) (did : String) : CallEvent where
  type := some ROUTE_POINT_JOIN
  callId := some join.callId
  eventId := some ("join-" ++ join.opaqueKey)
  did := some did
  participantId := some join.participantId
  routePointDn := some config.routePointDn
  direction := some "inbound"

/-- The event of the end of a call; its key is `callId.slice("pbx-".length)`. -/
def endEvent (config : AdapterConfig) (callId : String) : CallEvent where
  type := some ROUTE_POINT_END
  callId := some callId
  eventId := some ("end-" ++ String.ofList (callId.toList.drop 4))
  did := none
  participantId := none
  routePointDn := some config.routePointDn
  direction := none

/-- `result?.reason || fallback`. -/
def reasonOr (reason : Option String) (fallback : String) : String :=
  (reason.filter (· ≠ "")).getD fallback

/-- `["call_ended", "already_terminal", "call_not_tracked"].includes(result?.reason)`. -/
def endsCall (reason : Option String) : Bool :=
  reason == some "call_ended" || reason == some "already_terminal" || reason == some "call_not_tracked"

/-- The two maps without a call. -/
def forget (a : EventAdapter) (callId : String) (participantId : Int) : EventAdapter :=
  { a with
    participantByCallId := a.participantByCallId.delete callId
    callIdByParticipantId := a.callIdByParticipantId.delete participantId }

/-- The argument of `resolveInboundCall`. -/
def resolveRequest (config : AdapterConfig) (info : ParticipantInfo) : ResolveRequest where
  routePointDn := config.routePointDn
  participantDn := boundedString info.dn 128
  partyDid := boundedString info.partyDid 64
  partyDnType := boundedString info.partyDnType 64
  originatedByDn := boundedString info.originatedByDn 128
  originatedByType := boundedString info.originatedByType 64
  status := info.status
  callId := info.callid
  legId := info.legid

/-- `#onParticipantConnected` returns: to the queue, or to the loop over the snapshot. -/
def leave (a : EventAdapter) (rest : Option (List (String × SnapshotRow))) : EventAdapter :=
  { a with running := rest.map .returning }

/-- `#onParticipantConnected` once the participant's shape is checked. -/
def resolveParticipant (config : AdapterConfig) (a : EventAdapter) (participantId : Int) (info : ParticipantInfo)
    (rest : Option (List (String × SnapshotRow))) : EventAdapter :=
  match boundedString info.participantUid 255 with
  | none => (a.signal "stable_call_reference_missing").leave rest
  | some providerReference =>
      let join : PendingJoin := ⟨config.sha256Hex providerReference, participantId⟩
      if (a.participantByCallId.get join.callId).isSome then (a.signal "duplicate_local_participant").leave rest
      else { a with running := some (.resolving (resolveRequest config info) join rest) }

/-- `#onParticipantConnected`, up to `resolveInboundCall`. -/
def onParticipantConnected (config : AdapterConfig) (a : EventAdapter) (participant : Option Participant)
    (rest : Option (List (String × SnapshotRow))) : EventAdapter :=
  if !a.accepting then (a.signal "pbx_not_ready").leave rest
  else
    match participant with
    | none => (a.signal "non_routepoint_participant_ignored").leave rest
    | some participant =>
        if participant.isExtensionParticipant ≠ some false ∨ participant.dn ≠ some config.routePointDn then
          (a.signal "non_routepoint_participant_ignored").leave rest
        else
          match participant.id, participant.info with
          | some participantId, some info =>
              if participantId < 1 ∨ info.status ≠ some "Connected" then
                (a.signal "invalid_participant_state").leave rest
              else a.resolveParticipant config participantId info rest
          | _, _ => (a.signal "invalid_participant_state").leave rest

/-- The continuation of `#onParticipantConnected` after `resolveInboundCall`. -/
def participantResolved (config : AdapterConfig) (a : EventAdapter) (join : PendingJoin)
    (rest : Option (List (String × SnapshotRow))) (outcome : Except String (Option Resolution)) : EventAdapter :=
  match outcome with
  | .error _ => (a.signal "inbound_call_unresolved").leave rest
  | .ok resolution =>
      match boundedString (resolution.bind Resolution.did) 64 with
      | none => (a.signal "inbound_call_unresolved").leave rest
      | some did =>
          if resolution.bind Resolution.direction ≠ some "inbound" then
            (a.signal "inbound_call_unresolved").leave rest
          else
            { a with
              participantByCallId := a.participantByCallId.set join.callId join.participantId
              callIdByParticipantId := a.callIdByParticipantId.set join.participantId join.callId
              running := some (.joining join rest) }.route (joinEvent config join did) false

/-- The continuation of `#onParticipantConnected` after `controller.handleEvent`.  An exception leaves the
operation, and the loop over the snapshot with it. -/
def participantJoined (a : EventAdapter) (join : PendingJoin) (rest : Option (List (String × SnapshotRow)))
    (outcome : Except String (Option String)) : EventAdapter :=
  match outcome with
  | .error _ => a.finish (if rest.isSome then "pbx_event_failed" else "participant_event_failed")
  | .ok reason =>
      let kept := if reason = some "call_active" then a else a.forget join.callId join.participantId
      (kept.signal (reasonOr reason "controller_rejected_event")).leave rest

/-- `#onParticipantDisconnected`, up to `controller.handleEvent`. -/
def onParticipantDisconnected (config : AdapterConfig) (a : EventAdapter) (participantId : Option Int) : EventAdapter :=
  match participantId with
  | none => a.finish "untracked_participant_end"
  | some id =>
      match a.callIdByParticipantId.get id with
      | none => a.finish "untracked_participant_end"
      | some callId => { a with running := some (.ending id callId) }.route (endEvent config callId) false

/-- The continuation of `#onParticipantDisconnected`. -/
def participantEnded (a : EventAdapter) (participantId : Int) (callId : String) (outcome : Except String (Option String)) :
    EventAdapter :=
  match outcome with
  | .error _ => a.finish "participant_end_failed"
  | .ok reason =>
      let kept := if endsCall reason then a.forget callId participantId else a
      kept.finish (reasonOr reason "controller_rejected_end_event")

/-- The participant that the loop over a snapshot hands to `#onParticipantConnected`. -/
def snapshotParticipant (config : AdapterConfig) (participantId : Int) (info : ParticipantInfo) : Participant where
  id := some participantId
  dn := some config.routePointDn
  isExtensionParticipant := some false
  info := some { info with dn := some (info.dn.getD config.routePointDn) }

/-- `#reconcileAfterReconnect` from its loop over the snapshot on. -/
def admitSnapshot (config : AdapterConfig) (a : EventAdapter) : List (String × SnapshotRow) → EventAdapter
  | [] => a.finish "pbx_reconciled"
  | (_, row) :: rest =>
      if row.info.status ≠ some "Connected" then a.admitSnapshot config rest
      else
        match row.number with
        | none => a.admitSnapshot config rest
        | some participantId =>
            if participantId < 1 then a.admitSnapshot config rest
            else a.onParticipantConnected config (some (snapshotParticipant config participantId row.info)) (some rest)

/-- The snapshot has the participant of a tracked call, connected and with the same reference. -/
def isCurrent (config : AdapterConfig) (current : Snapshot) (callId : String) (participantId : Int) : Bool :=
  match current.get (toString participantId) with
  | none => false
  | some row =>
      row.info.status == some "Connected" &&
        (boundedString row.info.participantUid 255).map (fun reference => "pbx-" ++ config.sha256Hex reference) ==
          some callId

/-- The gate opens: every tracked call has been compared with the snapshot. -/
def openGate (a : EventAdapter) (epoch : Nat) : EventAdapter :=
  { a with accepting := true, opened := some a.connectionEpoch, reconciled := some epoch }

/-- `#reconcileAfterReconnect` from its loop over the tracked calls on. -/
def sweepCalls (config : AdapterConfig) (a : EventAdapter) (current : Snapshot) (epoch : Nat) :
    List (String × Int) → EventAdapter
  | [] => (a.openGate epoch).admitSnapshot config current.entries
  | (callId, participantId) :: rest =>
      if isCurrent config current callId participantId then a.sweepCalls config current epoch rest
      else
        { a with running := some (.sweeping callId participantId rest current epoch) }.route (endEvent config callId) true

/-- The continuation of `#reconcileAfterReconnect` after `getFullInfo()`. -/
def snapshotFetched (config : AdapterConfig) (a : EventAdapter) (epoch : Nat) (outcome : Except String (Option Snapshot)) :
    EventAdapter :=
  match outcome with
  | .ok (some current) => a.sweepCalls config current epoch a.participantByCallId.entries
  | .ok none => a.finish "pbx_reconciliation_failed"
  | .error _ => a.finish "pbx_reconciliation_failed"

/-- The continuation of the loop over the tracked calls after `controller.handleEvent`. -/
def callSwept (config : AdapterConfig) (a : EventAdapter) (callId : String) (participantId : Int)
    (rest : List (String × Int)) (current : Snapshot) (epoch : Nat) (outcome : Except String (Option String)) :
    EventAdapter :=
  match outcome with
  | .error _ => a.finish "pbx_reconciliation_failed"
  | .ok reason =>
      if endsCall reason then (a.forget callId participantId).sweepCalls config current epoch rest
      else a.finish "pbx_reconciliation_failed"

/-- The task that `handleConnected` has queued. -/
def connectionTask (a : EventAdapter) (epoch : Nat) (isFirstConnection : Bool) : EventAdapter :=
  if epoch ≠ a.connectionEpoch then a
  else if isFirstConnection then { a with accepting := true, opened := some a.connectionEpoch }.signal "pbx_connected"
  else { a with accepting := false, running := some (.fetching epoch) }

/-- An operation begins. -/
def runOp (config : AdapterConfig) (a : EventAdapter) : AdapterOp → EventAdapter
  | .connection epoch isFirstConnection => a.connectionTask epoch isFirstConnection
  | .participantConnected participant => a.onParticipantConnected config participant none
  | .participantDisconnected participantId => a.onParticipantDisconnected config participantId

/-- `controller.handleEvent` has answered. -/
def eventAnswered (config : AdapterConfig) (a : EventAdapter) (outcome : Except String (Option String)) : Option EventAdapter :=
  match a.running with
  | some (.sweeping callId participantId rest current epoch) =>
      some (a.callSwept config callId participantId rest current epoch outcome)
  | some (.joining join rest) => some (a.participantJoined join rest outcome)
  | some (.ending participantId callId) => some (a.participantEnded participantId callId outcome)
  | _ => none

/-- The client delivers an event to the listeners, if they are registered. -/
def deliver (a : EventAdapter) (handled : EventAdapter) : Option EventAdapter :=
  if a.started then some handled else none

/-- One turn of the event loop. -/
def step (config : AdapterConfig) (a : EventAdapter) : AdapterAction → Option EventAdapter
  | .start => some a.start
  | .stop => some a.stop
  | .connected => a.deliver a.handleConnected
  | .disconnected => a.deliver a.handleClientDisconnected
  | .clientError => a.deliver (a.signal "pbx_sdk_error")
  | .extensionParticipantConnected => a.deliver (a.signal "extension_event_ignored")
  | .participantConnected participant => a.deliver (a.enqueue (.participantConnected participant))
  | .participantDisconnected participantId => a.deliver (a.enqueue (.participantDisconnected participantId))
  | .begin =>
      match a.running, a.waiting with
      | none, op :: rest => some ({ a with waiting := rest }.runOp config op)
      | _, _ => none
  | .fetched outcome =>
      match a.running with
      | some (.fetching epoch) => some (a.snapshotFetched config epoch outcome)
      | _ => none
  | .resolved outcome =>
      match a.running with
      | some (.resolving _ join rest) => some (a.participantResolved config join rest outcome)
      | _ => none
  | .eventAnswered outcome => a.eventAnswered config outcome
  | .resume =>
      match a.running with
      | some (.returning rest) => some (a.admitSnapshot config rest)
      | _ => none

/-! ## A sample tenant -/

/-- A route point, and the digest of the one reference below. -/
def sampleConfig : AdapterConfig where
  routePointDn := "800"
  sha256Hex := fun _ => "c7c8fc91abb8ed76c29a883381b92612dcd8235d6e7ddca8d81f6e87d5fab417"

/-- A connected caller. -/
def sampleInfo : ParticipantInfo where
  status := some "Connected"
  participantUid := some "leg"
  dn := some "800"
  partyDid := some "+15550100"
  partyDnType := none
  originatedByDn := none
  originatedByType := none
  callid := some 938
  legid := some 2

def sampleParticipant : Participant where
  id := some 53
  dn := some "800"
  isExtensionParticipant := some false
  info := some sampleInfo

end EventAdapter

end Connector
end VoiceAssistants
