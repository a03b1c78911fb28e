import VoiceAssistants.Connector.AdapterMaps

/-!
# A reconciliation after a reconnect (`#reconcileAfterReconnect`)

A reconciliation compares the tracked calls with a snapshot of the PBX and ends those that are gone; then it opens the
gate and hands the participants of the snapshot to the same path that new ones take.  Each `await` lets events in, so
the map of the calls is not what it was when the loop over it began.

`Reconciliation` is the adapter with a record of what the operation in progress has done, `Reconciled` what it should
have done when it settles, and `Stage` lists where it can be, with what it has done up to there.
-/

namespace VoiceAssistants
namespace Connector

open Async Collections

namespace EventAdapter

/-! ## What a reconciliation has to do -/

section Purpose

variable (config : AdapterConfig) (current : Snapshot) (resolution : PendingJoin → Except String (Option Resolution))

/-- The tracked calls that the snapshot does not have. -/
def goneCalls (tracked : List (String × Int)) : List (String × Int) :=
  tracked.filter fun call => !isCurrent config current call.1 call.2

/-- Their events. -/
def endEvents (tracked : List (String × Int)) : List CallEvent :=
  (goneCalls config current tracked).map fun call => endEvent config call.1

/-- The call of a participant of the snapshot: it is connected, and has a number and a reference. -/
def rowJoin (row : SnapshotRow) : Option PendingJoin :=
  if row.info.status = some "Connected" then
    match row.number, boundedString row.info.participantUid 255 with
    | some participantId, some reference =>
        if participantId < 1 then none else some ⟨config.sha256Hex reference, participantId⟩
    | _, _ => none
  else none

/-- The inbound DID in an answer of the resolver. -/
def inboundDid (outcome : Except String (Option Resolution)) : Option String :=
  match outcome with
  | .error _ => none
  | .ok resolution =>
      (boundedString (resolution.bind Resolution.did) 64).filter fun _ =>
        resolution.bind Resolution.direction = some "inbound"

/-- The calls that join: those of the snapshot that are not tracked when the gate opens, and are inbound. -/
def joinedCalls (gate : OrderedMap String Int) (rows : List (String × SnapshotRow)) : List (PendingJoin × String) :=
  rows.filterMap fun entry => (rowJoin config entry.2).bind fun join =>
    if gate.get join.callId = none then (inboundDid (resolution join)).map fun did => (join, did) else none

/-- Their events. -/
def joinEvents (gate : OrderedMap String Int) (rows : List (String × SnapshotRow)) : List CallEvent :=
  (joinedCalls config resolution gate rows).map fun call => joinEvent config call.1 call.2

end Purpose

section Lists

variable {config : AdapterConfig} {current : Snapshot} {resolution : PendingJoin → Except String (Option Resolution)}
  {gate : OrderedMap String Int} {rows rows' : List (String × SnapshotRow)} {entry : String × SnapshotRow}
  {join : PendingJoin} {did : String}

@[simp] theorem goneCalls_append (tracked tracked' : List (String × Int)) :
    goneCalls config current (tracked ++ tracked') = goneCalls config current tracked ++ goneCalls config current tracked' :=
  List.filter_append tracked tracked'

theorem goneCalls_of_current {tracked : List (String × Int)}
    (h : ∀ call ∈ tracked, isCurrent config current call.1 call.2 = true) : goneCalls config current tracked = [] := by
  apply List.filter_eq_nil_iff.mpr
  intro call hcall
  simp [h call hcall]

theorem goneCalls_cons_gone {callId : String} {participantId : Int} {tracked : List (String × Int)}
    (h : isCurrent config current callId participantId = false) :
    goneCalls config current ((callId, participantId) :: tracked) =
      (callId, participantId) :: goneCalls config current tracked := by
  simp [goneCalls, h]

@[simp] theorem joinedCalls_append : joinedCalls config resolution gate (rows ++ rows') =
    joinedCalls config resolution gate rows ++ joinedCalls config resolution gate rows' :=
  List.filterMap_append

@[simp] theorem joinEvents_append : joinEvents config resolution gate (rows ++ rows') =
    joinEvents config resolution gate rows ++ joinEvents config resolution gate rows' := by
  simp [joinEvents]

theorem joinedCalls_of_none (h : ∀ entry ∈ rows, rowJoin config entry.2 = none) :
    joinedCalls config resolution gate rows = [] := by
  apply List.filterMap_eq_nil_iff.mpr
  intro entry hentry
  simp [h entry hentry]

/-- A participant that joins, or does not. -/
theorem joinedCalls_single (hjoin : rowJoin config entry.2 = some join) (hgate : gate.get join.callId = none) :
    joinedCalls config resolution gate [entry] = ((inboundDid (resolution join)).map fun did => (join, did)).toList := by
  cases hdid : inboundDid (resolution join) <;> simp [joinedCalls, hjoin, hgate, hdid]

theorem joinedCalls_tracked (hjoin : rowJoin config entry.2 = some join) (hgate : gate.get join.callId ≠ none) :
    joinedCalls config resolution gate [entry] = [] := by
  simp [joinedCalls, hjoin, hgate]

theorem mem_joinedCalls {call : PendingJoin × String} : call ∈ joinedCalls config resolution gate rows ↔
    (∃ entry ∈ rows, rowJoin config entry.2 = some call.1) ∧ gate.get call.1.callId = none ∧
      inboundDid (resolution call.1) = some call.2 := by
  obtain ⟨join, did⟩ := call
  unfold joinedCalls
  rw [List.mem_filterMap]
  constructor
  · rintro ⟨entry, hentry, hcall⟩
    obtain ⟨join', hjoin, hcall⟩ := Option.bind_eq_some_iff.mp hcall
    split at hcall
    · rename_i hgate
      obtain ⟨did', hdid, hpair⟩ := Option.map_eq_some_iff.mp hcall
      obtain ⟨rfl, rfl⟩ := Prod.mk.inj hpair
      exact ⟨⟨entry, hentry, hjoin⟩, hgate, hdid⟩
    · cases hcall
  · rintro ⟨⟨entry, hentry, hjoin⟩, hgate, hdid⟩
    refine ⟨entry, hentry, ?_⟩
    dsimp only at hjoin hgate hdid
    simp [hjoin, hgate, hdid]

/-- `#onParticipantConnected` after the resolver, by the DID it answers with. -/
theorem participantResolved_none {a : EventAdapter} {rest : Option (List (String × SnapshotRow))}
    {outcome : Except String (Option Resolution)} (h : inboundDid outcome = none) :
    a.participantResolved config join rest outcome = (a.signal "inbound_call_unresolved").leave rest := by
  unfold participantResolved
  cases outcome with
  | error _ => rfl
  | ok resolution =>
      dsimp only
      cases hdid : boundedString (resolution.bind Resolution.did) 64 with
      | none => rfl
      | some did =>
          have hdirection : resolution.bind Resolution.direction ≠ some "inbound" := by
            simpa [inboundDid, hdid] using h
          simp [hdirection]

theorem participantResolved_some {a : EventAdapter} {rest : Option (List (String × SnapshotRow))}
    {outcome : Except String (Option Resolution)} (h : inboundDid outcome = some did) :
    a.participantResolved config join rest outcome =
      { a with
        participantByCallId := a.participantByCallId.set join.callId join.participantId
        callIdByParticipantId := a.callIdByParticipantId.set join.participantId join.callId
        running := some (.joining join rest) }.route (joinEvent config join did) false := by
  unfold participantResolved
  cases outcome with
  | error _ => cases h
  | ok resolution =>
      obtain ⟨hdid, hdirection⟩ := Option.filter_eq_some_iff.mp h
      simp [hdid, of_decide_eq_true hdirection]

end Lists

/-! ## The loops, up to their next `await` -/

/-- The loop over the snapshot has come to its end, or to a participant: it was left out, or its resolver is asked. -/
inductive Visit (config : AdapterConfig) (a : EventAdapter) (rows : List (String × SnapshotRow)) : EventAdapter → Prop
  | finished (none : ∀ entry ∈ rows, rowJoin config entry.2 = none) : Visit config a rows (a.finish "pbx_reconciled")
  | left (reason : String) (before rest : List (String × SnapshotRow)) (entry : String × SnapshotRow)
      (split : rows = before ++ entry :: rest) (skipped : ∀ entry ∈ before, rowJoin config entry.2 = none)
      (why : ∀ join, rowJoin config entry.2 = some join → a.participantByCallId.get join.callId ≠ none) :
      Visit config a rows ((a.signal reason).leave (some rest))
  | resolving (request : ResolveRequest) (join : PendingJoin) (before rest : List (String × SnapshotRow))
      (entry : String × SnapshotRow) (split : rows = before ++ entry :: rest)
      (skipped : ∀ entry ∈ before, rowJoin config entry.2 = none) (call : rowJoin config entry.2 = some join)
      (unmapped : a.participantByCallId.get join.callId = none) :
      Visit config a rows { a with running := some (.resolving request join (some rest)) }

/-- The loop over the tracked calls has come to its end, or to a call that is gone. -/
inductive Sweep (config : AdapterConfig) (a : EventAdapter) (current : Snapshot) (epoch : Nat)
    (tracked : List (String × Int)) : EventAdapter → Prop
  | opened (a' : EventAdapter) (all : ∀ call ∈ tracked, isCurrent config current call.1 call.2 = true)
      (visit : Visit config (a.openGate epoch) current.entries a') : Sweep config a current epoch tracked a'
  | ending (before rest : List (String × Int)) (callId : String) (participantId : Int)
      (split : tracked = before ++ (callId, participantId) :: rest)
      (kept : ∀ call ∈ before, isCurrent config current call.1 call.2 = true)
      (gone : isCurrent config current callId participantId = false) :
      Sweep config a current epoch tracked
        ({ a with running := some (.sweeping callId participantId rest current epoch) }.route (endEvent config callId) true)

section Loops

variable {config : AdapterConfig} {a a' : EventAdapter} {current : Snapshot} {epoch : Nat}

/-- A participant that the loop passes over is prepended. -/
theorem Visit.skip {rows : List (String × SnapshotRow)} {entry : String × SnapshotRow}
    (hskip : rowJoin config entry.2 = none) (h : Visit config a rows a') : Visit config a (entry :: rows) a' := by
  have hskipped : ∀ before : List (String × SnapshotRow), (∀ entry ∈ before, rowJoin config entry.2 = none) →
      ∀ other ∈ entry :: before, rowJoin config other.2 = none := by
    intro before hbefore other hother
    rcases List.mem_cons.mp hother with rfl | hother
    · exact hskip
    · exact hbefore other hother
  cases h with
  | finished hnone => exact .finished (hskipped rows hnone)
  | left reason before rest visited hsplit hbefore why =>
      exact .left reason (entry :: before) rest visited (by rw [hsplit]; rfl) (hskipped before hbefore) why
  | resolving request join before rest visited hsplit hbefore call unmapped =>
      exact .resolving request join (entry :: before) rest visited (by rw [hsplit]; rfl) (hskipped before hbefore) call
        unmapped

/-- The loop over the snapshot, with the gate open. -/
theorem admitSnapshot_visit (haccepting : a.accepting = true) (rows : List (String × SnapshotRow)) :
    Visit config a rows (a.admitSnapshot config rows) := by
  induction rows with
  | nil =>
      apply Visit.finished
      intro entry hentry
      cases hentry
  | cons entry rest ih =>
      obtain ⟨key, row⟩ := entry
      unfold admitSnapshot
      by_cases hstatus : row.info.status = some "Connected"
      · rw [if_neg (not_not.mpr hstatus)]
        cases hnumber : row.number with
        | none => exact ih.skip (by simp [rowJoin, hnumber])
        | some participantId =>
            dsimp only
            by_cases hsmall : participantId < 1
            · rw [if_pos hsmall]
              apply ih.skip
              cases hreference : boundedString row.info.participantUid 255 with
              | none => simp [rowJoin, hstatus, hnumber, hreference]
              | some reference => simp [rowJoin, hstatus, hnumber, hreference, hsmall]
            · rw [if_neg hsmall]
              -- the checks before the reference pass
              have hpath : a.onParticipantConnected config (some (snapshotParticipant config participantId row.info))
                  (some rest) = a.resolveParticipant config participantId
                    { row.info with dn := some (row.info.dn.getD config.routePointDn) } (some rest) := by
                simp [onParticipantConnected, haccepting, snapshotParticipant, hsmall, hstatus]
              rw [hpath]
              unfold resolveParticipant
              cases hreference : boundedString row.info.participantUid 255 with
              | none =>
                  apply Visit.left _ [] rest (key, row) rfl (by simp)
                  intro join hjoin
                  simp [rowJoin, hstatus, hnumber, hreference] at hjoin
              | some reference =>
                  have hjoin : rowJoin config row = some ⟨config.sha256Hex reference, participantId⟩ := by
                    simp [rowJoin, hstatus, hnumber, hreference, hsmall]
                  dsimp only
                  split
                  · rename_i hmapped
                    apply Visit.left _ [] rest (key, row) rfl (by simp)
                    intro join hjoin'
                    obtain rfl := Option.some.inj (hjoin.symm.trans hjoin')
                    intro hnone
                    rw [hnone] at hmapped
                    cases hmapped
                  · rename_i hmapped
                    exact .resolving _ _ [] rest (key, row) rfl (by simp) hjoin (by simpa using hmapped)
      · rw [if_pos hstatus]
        exact ih.skip (by simp [rowJoin, hstatus])

theorem sweepCalls_sweep (tracked : List (String × Int)) :
    Sweep config a current epoch tracked (a.sweepCalls config current epoch tracked) := by
  induction tracked with
  | nil =>
      apply Sweep.opened
      · intro call hcall
        cases hcall
      · exact admitSnapshot_visit rfl _
  | cons call rest ih =>
      obtain ⟨callId, participantId⟩ := call
      unfold sweepCalls
      cases hcurrent : isCurrent config current callId participantId with
      | false => exact .ending [] rest callId participantId rfl (by simp) hcurrent
      | true =>
          rw [if_pos rfl]
          have hhead : ∀ before : List (String × Int), (∀ call ∈ before, isCurrent config current call.1 call.2 = true) →
              ∀ call ∈ (callId, participantId) :: before, isCurrent config current call.1 call.2 = true := by
            intro before hbefore call hcall
            rcases List.mem_cons.mp hcall with rfl | hcall
            · exact hcurrent
            · exact hbefore call hcall
          generalize a.sweepCalls config current epoch rest = a' at ih ⊢
          cases ih with
          | opened _ hall hvisit => exact .opened _ (hhead rest hall) hvisit
          | ending before rest' callId' participantId' hsplit hbefore hgone =>
              exact .ending ((callId, participantId) :: before) rest' callId' participantId' (by rw [hsplit]; rfl)
                (hhead before hbefore) hgone

end Loops

/-! ## The operation in progress -/

/-- The adapter since a reconciliation has begun: the events that the operation has sent to the controller, those that
have been answered and how, the tracked calls when the gate opened, and the signal that it has settled with. -/
structure Reconciliation where
  adapter : EventAdapter
  events : List CallEvent
  answered : List (CallEvent × Option String)
  gate : Option (OrderedMap String Int)
  settled : Option String

namespace Reconciliation

/-- `#reconcileAfterReconnect` has closed the gate and asks for a snapshot. -/
structure Begun (start : EventAdapter) : Prop where
  fetching : ∃ epoch, start.running = some (.fetching epoch)
  accepting : start.accepting = false

def begun (start : EventAdapter) : Reconciliation where
  adapter := start
  events := []
  answered := []
  gate := none
  settled := none

/-- The answer of the controller that a turn brings. -/
def answers (r : Reconciliation) : AdapterAction → List (CallEvent × Option String)
  | .eventAnswered (.ok reason) => (r.events.getLast?.map fun event => (event, reason)).toList
  | _ => []

/-- The record after a turn that leaves the adapter `a`. -/
def observe (r : Reconciliation) (action : AdapterAction) (a : EventAdapter) : Reconciliation where
  adapter := a
  events := r.events ++ (a.routed.drop r.adapter.routed.length).map Routed.event
  answered := r.answered ++ r.answers action
  gate := if !r.adapter.accepting && a.accepting then some a.participantByCallId else r.gate
  settled := if r.adapter.running.isSome && a.running.isNone then a.signals.getLast? else r.settled

/-- A turn of the adapter. -/
def step (config : AdapterConfig) (r : Reconciliation) (action : AdapterAction) : Option Reconciliation :=
  (r.adapter.step config action).map (r.observe action)

/-- The link stays up, and no other operation begins; `getFullInfo` and the resolver answer as given. -/
def Linked (reply : Except String (Option Snapshot)) (resolution : PendingJoin → Except String (Option Resolution))
    (r : Reconciliation) : AdapterAction → Prop
  | .disconnected | .begin => False
  | .fetched outcome => outcome = reply
  | .resolved outcome => ∀ request join rest, r.adapter.running = some (.resolving request join rest) →
      outcome = resolution join
  | _ => True

/-- Nor is the adapter stopped. -/
def Uninterrupted (reply : Except String (Option Snapshot))
    (resolution : PendingJoin → Except String (Option Resolution)) (r : Reconciliation) (action : AdapterAction) : Prop :=
  r.Linked reply resolution action ∧ action ≠ .stop

/-- The participants of a snapshot are under their numbers, and have references and digests of their own. -/
structure Distinct (config : AdapterConfig) (current : Snapshot) : Prop where
  keyed : ∀ key row, current.get key = some row →
    ∃ participantId, row.number = some participantId ∧ 1 ≤ participantId ∧ key = toString participantId
  references : ∀ key row key' row', current.get key = some row → current.get key' = some row' →
    row.info.participantUid.isSome = true → row.info.participantUid = row'.info.participantUid → key = key'
  digests : ∀ key row key' row' reference reference', current.get key = some row → current.get key' = some row' →
    row.info.participantUid = some reference → row'.info.participantUid = some reference' →
      config.sha256Hex reference = config.sha256Hex reference' → reference = reference'

/-- The events of an operation for a call. -/
def eventsOf (r : Reconciliation) (type callId : String) : List CallEvent :=
  r.events.filter fun event => event.type = some type ∧ event.callId = some callId

/-- What a reconciliation has done with the tracked calls and the participants of the snapshot. -/
structure Reconciled (config : AdapterConfig) (start : EventAdapter) (current : Snapshot)
    (resolution : PendingJoin → Except String (Option Resolution)) (r : Reconciliation) : Prop where
  /-- A call that is gone has been ended once, with an answer that ends it, and was not tracked when the gate opened. -/
  gone : ∀ callId participantId, start.participantByCallId.get callId = some participantId →
    isCurrent config current callId participantId = false →
      r.eventsOf ROUTE_POINT_END callId = [endEvent config callId] ∧
        (∃ reason, (endEvent config callId, reason) ∈ r.answered ∧ endsCall reason = true) ∧
        ∃ gate, r.gate = some gate ∧ gate.get callId = none
  /-- Any other call is still tracked, and had no event. -/
  kept : ∀ callId participantId, start.participantByCallId.get callId = some participantId →
    isCurrent config current callId participantId = true →
      r.adapter.participantByCallId.get callId = some participantId ∧
        r.eventsOf ROUTE_POINT_END callId = [] ∧ r.eventsOf ROUTE_POINT_JOIN callId = []
  /-- A connected participant that is inbound and was not tracked has joined once. -/
  joined : ∀ key row reference participantId did, current.get key = some row → row.info.status = some "Connected" →
    boundedString row.info.participantUid 255 = some reference → row.number = some participantId →
      start.participantByCallId.get ("pbx-" ++ config.sha256Hex reference) = none →
        inboundDid (resolution ⟨config.sha256Hex reference, participantId⟩) = some did →
          r.eventsOf ROUTE_POINT_JOIN ("pbx-" ++ config.sha256Hex reference) =
            [joinEvent config ⟨config.sha256Hex reference, participantId⟩ did]

/-- What a reconciliation that has failed has not done. -/
structure Refused (r : Reconciliation) : Prop where
  accepting : r.adapter.accepting = false
  joins : ∀ event ∈ r.events, event.type ≠ some ROUTE_POINT_JOIN

/-! ## Where an operation can be -/

/-- What the stages say of a reconciliation. -/
structure View where
  running : Option AdapterTask
  accepting : Bool
  calls : OrderedMap String Int
  events : List CallEvent
  answered : List (CallEvent × Option String)
  gate : Option (OrderedMap String Int)
  settled : Option String

def view (r : Reconciliation) : View where
  running := r.adapter.running
  accepting := r.adapter.accepting
  calls := r.adapter.participantByCallId
  events := r.events
  answered := r.answered
  gate := r.gate
  settled := r.settled

/-- An answer to the end of a call. -/
def isEnd (answer : CallEvent × Option String) : Bool :=
  answer.1.type = some ROUTE_POINT_END

section Stages

variable (config : AdapterConfig) (start : EventAdapter) (current : Snapshot)
  (resolution : PendingJoin → Except String (Option Resolution))

/-- The calls that are tracked when those of a list that are gone have been ended. -/
def CallsWithout (calls : OrderedMap String Int) (tracked : List (String × Int)) : Prop :=
  ∀ callId, calls.get callId =
    if callId ∈ (goneCalls config current tracked).map Prod.fst then none else start.participantByCallId.get callId

/-- The calls of a list that are gone have been ended. -/
structure Answers (answered : List (CallEvent × Option String)) (tracked : List (String × Int)) : Prop where
  ends : (answered.filter isEnd).map Prod.fst = endEvents config current tracked
  reasons : ∀ answer ∈ answered, isEnd answer = true → endsCall answer.2 = true

/-- The loop over the tracked calls has come past some of them. -/
structure Swept (before : List (String × Int)) (v : View) : Prop where
  accepting : v.accepting = false
  calls : CallsWithout config start current v.calls before
  answered : Answers config current v.answered before
  settled : v.settled = none

/-- The loop over the snapshot has come past some of its participants. -/
structure Past (gate : OrderedMap String Int) (done : List (String × SnapshotRow)) (v : View) : Prop where
  accepting : v.accepting = true
  opened : v.gate = some gate
  swept : CallsWithout config start current gate start.participantByCallId.entries
  calls : ∀ callId, (∀ call ∈ joinedCalls config resolution gate done, call.1.callId ≠ callId) →
    v.calls.get callId = gate.get callId
  events : v.events =
    endEvents config current start.participantByCallId.entries ++ joinEvents config resolution gate done
  answered : Answers config current v.answered start.participantByCallId.entries

/-- What the loop over the snapshot waits for: `done` are the participants before, `rest` those that remain. -/
inductive Waits (gate : OrderedMap String Int) (calls : OrderedMap String Int) (done rest : List (String × SnapshotRow)) :
    AdapterTask → Prop
  | returning : Waits gate calls done rest (.returning rest)
  | resolving (request : ResolveRequest) (join : PendingJoin) (entry : String × SnapshotRow)
      (rest' : List (String × SnapshotRow)) (split : rest = entry :: rest') (call : rowJoin config entry.2 = some join)
      (unmapped : calls.get join.callId = none) : Waits gate calls done rest (.resolving request join (some rest'))
  | joining (join : PendingJoin) (did : String) (earlier : List (PendingJoin × String))
      (last : joinedCalls config resolution gate done = earlier ++ [(join, did)]) :
      Waits gate calls done rest (.joining join (some rest))

variable (reply : Except String (Option Snapshot))

/-- Where a reconciliation can be. -/
inductive Stage (v : View) : Prop
  | fetching (epoch : Nat) (running : v.running = some (.fetching epoch)) (accepting : v.accepting = false)
      (calls : v.calls = start.participantByCallId) (events : v.events = []) (answered : v.answered = [])
      (settled : v.settled = none)
  | sweeping (current : Snapshot) (fetched : reply = .ok (some current)) (callId : String) (participantId : Int)
      (before rest : List (String × Int)) (epoch : Nat)
      (running : v.running = some (.sweeping callId participantId rest current epoch))
      (split : start.participantByCallId.entries = before ++ (callId, participantId) :: rest)
      (gone : isCurrent config current callId participantId = false) (swept : Swept config start current before v)
      (events : v.events = endEvents config current before ++ [endEvent config callId])
  | admitting (current : Snapshot) (fetched : reply = .ok (some current)) (gate : OrderedMap String Int)
      (done rest : List (String × SnapshotRow)) (task : AdapterTask) (running : v.running = some task)
      (split : current.entries = done ++ rest) (waits : Waits config resolution gate v.calls done rest task)
      (past : Past config start current resolution gate done v) (settled : v.settled = none)
  | reconciled (current : Snapshot) (fetched : reply = .ok (some current)) (gate : OrderedMap String Int)
      (running : v.running = none) (past : Past config start current resolution gate current.entries v)
      (settled : v.settled = some "pbx_reconciled")
  | failed (running : v.running = none) (settled : v.settled ≠ some "pbx_reconciled")
      (refused : v.settled = some "pbx_reconciliation_failed" →
        v.accepting = false ∧ ∀ event ∈ v.events, event.type ≠ some ROUTE_POINT_JOIN)

end Stages

end Reconciliation

end EventAdapter

end Connector
end VoiceAssistants
