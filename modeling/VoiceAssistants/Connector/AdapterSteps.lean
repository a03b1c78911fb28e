import Mathlib.Tactic.SplitIfs
import VoiceAssistants.Connector.SdkEventAdapter

/-!
# What a turn of the event adapter does

`Effect` lists the turns of the adapter, each with the state it finds and the state it leaves; `effect_of_step` is
the inversion of `EventAdapter.step`.  `Admitted` is a participant at the intake gate, `SweepEnds` the loop over the
tracked calls up to its next `await`.
-/

namespace VoiceAssistants
namespace Connector

open Async Collections

namespace EventAdapter

/-- A participant, or the rest of a snapshot, has been at the gate: it was left out, or its resolver is asked. -/
inductive Admitted (a : EventAdapter) : EventAdapter → Prop
  | left (signals : List String) (rest : Option (List (String × SnapshotRow))) :
      Admitted a { a with signals := signals, running := rest.map .returning }
  | resolving (signals : List String) (request : ResolveRequest) (join : PendingJoin)
      (rest : Option (List (String × SnapshotRow))) (accepting : a.accepting = true)
      (unmapped : a.participantByCallId.get join.callId = none) :
      Admitted a { a with signals := signals, running := some (.resolving request join rest) }

/-- The loop over the tracked calls has ended and the gate is open, or it ends a call that is not current. -/
inductive SweepEnds (config : AdapterConfig) (a : EventAdapter) (current : Snapshot) (epoch : Nat)
    (tracked : List (String × Int)) : EventAdapter → Prop
  | opened (a' : EventAdapter) (all : tracked.all (fun call => isCurrent config current call.1 call.2) = true)
      (admitted : Admitted (a.openGate epoch) a') : SweepEnds config a current epoch tracked a'
  | ended (before rest : List (String × Int)) (callId : String) (participantId : Int)
      (split : tracked = before ++ (callId, participantId) :: rest)
      (gone : isCurrent config current callId participantId = false) :
      SweepEnds config a current epoch tracked
        ({ a with running := some (.sweeping callId participantId rest current epoch) }.route
          (endEvent config callId) true)

/-- What one turn does. -/
inductive Effect (config : AdapterConfig) (a : EventAdapter) : AdapterAction → EventAdapter → Prop
  | start : Effect config a .start a.start
  | stop : Effect config a .stop a.stop
  | connected (listening : a.started = true) : Effect config a .connected a.handleConnected
  | disconnected (listening : a.started = true) : Effect config a .disconnected a.handleClientDisconnected
  | signalled (action : AdapterAction) (reason : String)
      (ignored : action = .clientError ∨ action = .extensionParticipantConnected) :
      Effect config a action (a.signal reason)
  | joinQueued (participant : Option Participant) :
      Effect config a (.participantConnected participant) (a.enqueue (.participantConnected participant))
  | endQueued (participantId : Option Int) :
      Effect config a (.participantDisconnected participantId) (a.enqueue (.participantDisconnected participantId))
  | stale (epoch : Nat) (isFirstConnection : Bool) (rest : List AdapterOp) (idle : a.running = none)
      (head : a.waiting = .connection epoch isFirstConnection :: rest) : Effect config a .begin { a with waiting := rest }
  | firstConnection (rest : List AdapterOp) (idle : a.running = none)
      (head : a.waiting = .connection a.connectionEpoch true :: rest) :
      Effect config a .begin
        ({ a with waiting := rest, accepting := true, opened := some a.connectionEpoch }.signal "pbx_connected")
  | reconnected (rest : List AdapterOp) (idle : a.running = none)
      (head : a.waiting = .connection a.connectionEpoch false :: rest) :
      Effect config a .begin
        { a with waiting := rest, accepting := false, running := some (.fetching a.connectionEpoch) }
  | joinBegins (participant : Option Participant) (rest : List AdapterOp) (idle : a.running = none)
      (head : a.waiting = .participantConnected participant :: rest) (a' : EventAdapter)
      (admitted : Admitted { a with waiting := rest } a') : Effect config a .begin a'
  | endUntracked (participantId : Option Int) (rest : List AdapterOp) (idle : a.running = none)
      (head : a.waiting = .participantDisconnected participantId :: rest) :
      Effect config a .begin ({ a with waiting := rest }.finish "untracked_participant_end")
  | endBegins (participantId : Int) (callId : String) (rest : List AdapterOp) (idle : a.running = none)
      (head : a.waiting = .participantDisconnected (some participantId) :: rest)
      (mapped : a.callIdByParticipantId.get participantId = some callId) :
      Effect config a .begin
        ({ a with waiting := rest, running := some (.ending participantId callId) }.route (endEvent config callId) false)
  | fetched (epoch : Nat) (current : Snapshot) (running : a.running = some (.fetching epoch)) (a' : EventAdapter)
      (ends : SweepEnds config a current epoch a.participantByCallId.entries a') :
      Effect config a (.fetched (.ok (some current))) a'
  | fetchFailed (outcome : Except String (Option Snapshot)) (epoch : Nat) (running : a.running = some (.fetching epoch)) :
      Effect config a (.fetched outcome) (a.finish "pbx_reconciliation_failed")
  | swept (callId : String) (participantId : Int) (rest : List (String × Int)) (current : Snapshot) (epoch : Nat)
      (reason : Option String) (running : a.running = some (.sweeping callId participantId rest current epoch))
      (gone : endsCall reason = true) (a' : EventAdapter)
      (ends : SweepEnds config (a.forget callId participantId) current epoch rest a') :
      Effect config a (.eventAnswered (.ok reason)) a'
  | sweepFailed (outcome : Except String (Option String)) (callId : String) (participantId : Int)
      (rest : List (String × Int)) (current : Snapshot) (epoch : Nat)
      (running : a.running = some (.sweeping callId participantId rest current epoch)) :
      Effect config a (.eventAnswered outcome) (a.finish "pbx_reconciliation_failed")
  | unresolved (outcome : Except String (Option Resolution)) (request : ResolveRequest) (join : PendingJoin)
      (rest : Option (List (String × SnapshotRow))) (running : a.running = some (.resolving request join rest)) :
      Effect config a (.resolved outcome) ((a.signal "inbound_call_unresolved").leave rest)
  | resolved (resolution : Resolution) (did : String) (request : ResolveRequest) (join : PendingJoin)
      (rest : Option (List (String × SnapshotRow))) (running : a.running = some (.resolving request join rest))
      (hdid : boundedString resolution.did 64 = some did) (inbound : resolution.direction = some "inbound") :
      Effect config a (.resolved (.ok (some resolution)))
        ({ a with
          participantByCallId := a.participantByCallId.set join.callId join.participantId
          callIdByParticipantId := a.callIdByParticipantId.set join.participantId join.callId
          running := some (.joining join rest) }.route (joinEvent config join did) false)
  | joinFailed (error : String) (join : PendingJoin) (rest : Option (List (String × SnapshotRow)))
      (running : a.running = some (.joining join rest)) :
      Effect config a (.eventAnswered (.error error))
        (a.finish (if rest.isSome then "pbx_event_failed" else "participant_event_failed"))
  | joined (join : PendingJoin) (rest : Option (List (String × SnapshotRow)))
      (running : a.running = some (.joining join rest)) :
      Effect config a (.eventAnswered (.ok (some "call_active"))) ((a.signal "call_active").leave rest)
  | joinRejected (reason : Option String) (join : PendingJoin) (rest : Option (List (String × SnapshotRow)))
      (running : a.running = some (.joining join rest)) (rejected : reason ≠ some "call_active") :
      Effect config a (.eventAnswered (.ok reason))
        (((a.forget join.callId join.participantId).signal (reasonOr reason "controller_rejected_event")).leave rest)
  | endFailed (error : String) (participantId : Int) (callId : String)
      (running : a.running = some (.ending participantId callId)) :
      Effect config a (.eventAnswered (.error error)) (a.finish "participant_end_failed")
  | ended (reason : Option String) (participantId : Int) (callId : String)
      (running : a.running = some (.ending participantId callId)) (gone : endsCall reason = true) :
      Effect config a (.eventAnswered (.ok reason))
        ((a.forget callId participantId).finish (reasonOr reason "controller_rejected_end_event"))
  | endRefused (reason : Option String) (participantId : Int) (callId : String)
      (running : a.running = some (.ending participantId callId)) (gone : endsCall reason = false) :
      Effect config a (.eventAnswered (.ok reason)) (a.finish (reasonOr reason "controller_rejected_end_event"))
  | resumed (rest : List (String × SnapshotRow)) (running : a.running = some (.returning rest)) (a' : EventAdapter)
      (admitted : Admitted a a') : Effect config a .resume a'

section Step

variable {config : AdapterConfig} {a a' : EventAdapter} {action : AdapterAction}

theorem onParticipantConnected_admitted (participant : Option Participant)
    (rest : Option (List (String × SnapshotRow))) : Admitted a (a.onParticipantConnected config participant rest) := by
  unfold onParticipantConnected
  split_ifs with haccepting
  · exact .left _ rest
  · cases participant with
    | none => exact .left _ rest
    | some participant =>
        dsimp only
        split_ifs
        · exact .left _ rest
        · split
          · rename_i participantId info _ _
            split_ifs
            · exact .left _ rest
            · unfold resolveParticipant
              cases boundedString info.participantUid 255 with
              | none => exact .left _ rest
              | some providerReference =>
                  dsimp only
                  split_ifs with hmapped
                  · exact .left _ rest
                  · apply Admitted.resolving a.signals
                    · simpa using haccepting
                    · simpa using hmapped
          · exact .left _ rest

theorem admitSnapshot_admitted (rows : List (String × SnapshotRow)) : Admitted a (a.admitSnapshot config rows) := by
  induction rows with
  | nil => exact .left _ none
  | cons entry rest ih =>
      obtain ⟨key, row⟩ := entry
      unfold admitSnapshot
      split_ifs
      · exact ih
      · cases row.number with
        | none => exact ih
        | some participantId =>
            dsimp only
            split_ifs
            · exact ih
            · exact onParticipantConnected_admitted _ _

theorem sweepCalls_ends (current : Snapshot) (epoch : Nat) (tracked : List (String × Int)) :
    SweepEnds config a current epoch tracked (a.sweepCalls config current epoch tracked) := by
  induction tracked with
  | nil => exact .opened _ rfl (admitSnapshot_admitted _)
  | cons call rest ih =>
      obtain ⟨callId, participantId⟩ := call
      unfold sweepCalls
      split_ifs with hcurrent
      · generalize a.sweepCalls config current epoch rest = a' at ih ⊢
        cases ih with
        | opened _ hall hadmitted => exact .opened _ (by simpa [hcurrent] using hall) hadmitted
        | ended before rest' callId' participantId' hsplit hgone =>
            exact .ended ((callId, participantId) :: before) rest' callId' participantId' (by rw [hsplit]; rfl) hgone
      · exact .ended [] rest callId participantId rfl (eq_false_of_ne_true hcurrent)

theorem runOp_effect {op : AdapterOp} {rest : List AdapterOp} (hidle : a.running = none) (hhead : a.waiting = op :: rest) :
    Effect config a .begin ({ a with waiting := rest }.runOp config op) := by
  cases op with
  | connection epoch isFirstConnection =>
      show Effect config a .begin ({ a with waiting := rest }.connectionTask epoch isFirstConnection)
      unfold connectionTask
      split_ifs with hepoch hfirst
      · exact .stale epoch isFirstConnection rest hidle hhead
      · obtain rfl : epoch = a.connectionEpoch := not_not.mp hepoch
        exact .firstConnection rest hidle (hfirst ▸ hhead)
      · obtain rfl : epoch = a.connectionEpoch := not_not.mp hepoch
        exact .reconnected rest hidle (eq_false_of_ne_true hfirst ▸ hhead)
  | participantConnected participant =>
      exact .joinBegins participant rest hidle hhead _ (onParticipantConnected_admitted participant none)
  | participantDisconnected participantId =>
      show Effect config a .begin ({ a with waiting := rest }.onParticipantDisconnected config participantId)
      unfold onParticipantDisconnected
      cases participantId with
      | none => exact .endUntracked none rest hidle hhead
      | some id =>
          dsimp only
          cases hmapped : a.callIdByParticipantId.get id with
          | none => exact .endUntracked (some id) rest hidle hhead
          | some callId => exact .endBegins id callId rest hidle hhead hmapped

theorem participantResolved_effect {request : ResolveRequest} {join : PendingJoin}
    {rest : Option (List (String × SnapshotRow))} (hrunning : a.running = some (.resolving request join rest))
    (outcome : Except String (Option Resolution)) :
    Effect config a (.resolved outcome) (a.participantResolved config join rest outcome) := by
  unfold participantResolved
  cases outcome with
  | error _ => exact .unresolved _ request join rest hrunning
  | ok resolution =>
      dsimp only
      split
      · exact .unresolved _ request join rest hrunning
      · rename_i did hdid
        split_ifs with hinbound
        · exact .unresolved _ request join rest hrunning
        · cases resolution with
          | none => cases hdid
          | some resolution => exact .resolved resolution did request join rest hrunning hdid (not_not.mp hinbound)

theorem eventAnswered_effect {outcome : Except String (Option String)} (h : a.eventAnswered config outcome = some a') :
    Effect config a (.eventAnswered outcome) a' := by
  unfold eventAnswered at h
  split at h
  · rename_i callId participantId rest current epoch hrunning
    obtain rfl := Option.some.inj h
    unfold callSwept
    cases outcome with
    | error _ => exact .sweepFailed _ callId participantId rest current epoch hrunning
    | ok reason =>
        dsimp only
        split_ifs with hover
        · exact .swept callId participantId rest current epoch reason hrunning hover _ (sweepCalls_ends ..)
        · exact .sweepFailed _ callId participantId rest current epoch hrunning
  · rename_i join rest hrunning
    obtain rfl := Option.some.inj h
    unfold participantJoined
    cases outcome with
    | error error => exact .joinFailed error join rest hrunning
    | ok reason =>
        dsimp only
        split_ifs with hactive
        · subst hactive
          exact .joined join rest hrunning
        · exact .joinRejected reason join rest hrunning hactive
  · rename_i participantId callId hrunning
    obtain rfl := Option.some.inj h
    unfold participantEnded
    cases outcome with
    | error error => exact .endFailed error participantId callId hrunning
    | ok reason =>
        dsimp only
        split_ifs with hover
        · exact .ended reason participantId callId hrunning hover
        · exact .endRefused reason participantId callId hrunning (eq_false_of_ne_true hover)
  · cases h

/-- An event the client delivers finds the listeners registered. -/
theorem deliver_eq_some {handled : EventAdapter} (h : a.deliver handled = some a') : a.started = true ∧ a' = handled := by
  unfold deliver at h
  split_ifs at h with hstarted
  exact ⟨hstarted, (Option.some.inj h).symm⟩

/-- Every turn has one of the effects. -/
theorem effect_of_step (h : a.step config action = some a') : Effect config a action a' := by
  cases action with
  | start =>
      obtain rfl := Option.some.inj h
      exact .start
  | stop =>
      obtain rfl := Option.some.inj h
      exact .stop
  | connected =>
      obtain ⟨hstarted, rfl⟩ := deliver_eq_some h
      exact .connected hstarted
  | disconnected =>
      obtain ⟨hstarted, rfl⟩ := deliver_eq_some h
      exact .disconnected hstarted
  | clientError =>
      obtain ⟨-, rfl⟩ := deliver_eq_some h
      exact .signalled _ _ (.inl rfl)
  | extensionParticipantConnected =>
      obtain ⟨-, rfl⟩ := deliver_eq_some h
      exact .signalled _ _ (.inr rfl)
  | participantConnected participant =>
      obtain ⟨-, rfl⟩ := deliver_eq_some h
      exact .joinQueued participant
  | participantDisconnected participantId =>
      obtain ⟨-, rfl⟩ := deliver_eq_some h
      exact .endQueued participantId
  | begin =>
      simp only [step] at h
      split at h
      · rename_i op rest hidle hhead
        obtain rfl := Option.some.inj h
        exact runOp_effect hidle hhead
      · cases h
  | fetched outcome =>
      simp only [step] at h
      split at h
      · rename_i epoch hrunning
        obtain rfl := Option.some.inj h
        unfold snapshotFetched
        split
        · exact .fetched epoch _ hrunning _ (sweepCalls_ends ..)
        · exact .fetchFailed _ epoch hrunning
        · exact .fetchFailed _ epoch hrunning
      · cases h
  | resolved outcome =>
      simp only [step] at h
      split at h
      · rename_i request join rest hrunning
        obtain rfl := Option.some.inj h
        exact participantResolved_effect hrunning outcome
      · cases h
  | eventAnswered outcome => exact eventAnswered_effect h
  | resume =>
      simp only [step] at h
      split at h
      · rename_i rest hrunning
        obtain rfl := Option.some.inj h
        exact .resumed rest hrunning _ (admitSnapshot_admitted rest)
      · cases h

end Step

end EventAdapter

end Connector
end VoiceAssistants
