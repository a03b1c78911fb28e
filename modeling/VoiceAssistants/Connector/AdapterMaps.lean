import VoiceAssistants.Collections.InverseMaps
import VoiceAssistants.Connector.IntakeGate

/-!
# The two maps of the event adapter

`participantByCallId` and `callIdByParticipantId` hold the tracked calls from either side.  A call is added when its
reference is not tracked, but its participant number is not looked up: a number that the PBX has given out again while the
call that had it is still tracked takes that call's entry away.

`maps_inverse` — as long as every call that is added comes with a number that no tracked call has, the maps are inverse.
-/

namespace VoiceAssistants
namespace Connector

open Async Collections

namespace EventAdapter

/-- A call that is added has a participant number that no call has. -/
structure FreshNumber (a : EventAdapter) (action : AdapterAction) : Prop where
  unmapped : ∀ (request : ResolveRequest) (join : PendingJoin) (rest : Option (List (String × SnapshotRow)))
    (resolution : Resolution) (did : String), a.running = some (.resolving request join rest) →
      action = .resolved (.ok (some resolution)) → boundedString resolution.did 64 = some did →
        resolution.direction = some "inbound" → a.callIdByParticipantId.get join.participantId = none

/-- What the maps have of the calls that the task in progress holds. -/
def AdapterTask.Holds (participantByCallId : OrderedMap String Int) : AdapterTask → Prop
  | .fetching _ | .returning _ => True
  | .sweeping callId participantId rest _ _ =>
      (((callId, participantId) :: rest).map Prod.fst).Nodup ∧
        ∀ call ∈ (callId, participantId) :: rest, participantByCallId.get call.1 = some call.2
  | .resolving _ join _ => participantByCallId.get join.callId = none
  | .joining join _ => participantByCallId.get join.callId = some join.participantId
  | .ending participantId callId => participantByCallId.get callId = some participantId

/-- The maps are inverse, and have the calls that the task in progress holds. -/
structure MapsInvariant (a : EventAdapter) : Prop where
  inverse : OrderedMap.Inverse a.participantByCallId a.callIdByParticipantId
  task : ∀ task, a.running = some task → AdapterTask.Holds a.participantByCallId task

section Maps

variable {config : AdapterConfig} {a a' : EventAdapter} {action : AdapterAction}

theorem mapsInvariant_initial : MapsInvariant initial where
  inverse := OrderedMap.inverse_empty
  task := fun _ hrunning => nomatch hrunning

/-- A turn that leaves the maps and the task alone. -/
theorem MapsInvariant.same (h : a.MapsInvariant) (hcalls : a'.participantByCallId = a.participantByCallId)
    (hnumbers : a'.callIdByParticipantId = a.callIdByParticipantId) (hrunning : a'.running = a.running) :
    a'.MapsInvariant := by
  constructor
  case inverse =>
    rw [hcalls, hnumbers]
    exact h.inverse
  case task =>
    rw [hcalls, hrunning]
    exact h.task

/-- The operation in progress settles, or returns to the loop over the snapshot. -/
theorem MapsInvariant.leave (hinverse : OrderedMap.Inverse a.participantByCallId a.callIdByParticipantId)
    (rest : Option (List (String × SnapshotRow))) : (a.leave rest).MapsInvariant := by
  constructor
  case inverse => exact hinverse
  case task =>
    intro task hrunning
    cases rest with
    | none => cases hrunning
    | some rest =>
        obtain rfl := Option.some.inj hrunning
        trivial

theorem MapsInvariant.finish (hinverse : OrderedMap.Inverse a.participantByCallId a.callIdByParticipantId)
    (reason : String) : (a.finish reason).MapsInvariant where
  inverse := hinverse
  task := fun _ hrunning => nomatch hrunning

/-- A tracked call leaves both maps. -/
theorem inverse_forget (h : a.MapsInvariant) {callId : String} {participantId : Int}
    (hpair : a.participantByCallId.get callId = some participantId) :
    OrderedMap.Inverse (a.forget callId participantId).participantByCallId
      (a.forget callId participantId).callIdByParticipantId :=
  h.inverse.delete hpair

theorem MapsInvariant.admitted (hinverse : OrderedMap.Inverse a.participantByCallId a.callIdByParticipantId)
    (hadmitted : Admitted a a') : a'.MapsInvariant := by
  cases hadmitted with
  | left signals rest => exact MapsInvariant.leave (a := { a with signals := signals }) hinverse rest
  | resolving signals request join rest _ hunmapped =>
      constructor
      case inverse => exact hinverse
      case task =>
        intro task hrunning
        obtain rfl := Option.some.inj hrunning
        exact hunmapped

/-- The loop over the tracked calls, all of which are in the maps. -/
theorem MapsInvariant.sweepEnds (hinverse : OrderedMap.Inverse a.participantByCallId a.callIdByParticipantId)
    {current : Snapshot} {epoch : Nat} {tracked : List (String × Int)} (hnodup : (tracked.map Prod.fst).Nodup)
    (htracked : ∀ call ∈ tracked, a.participantByCallId.get call.1 = some call.2)
    (hends : SweepEnds config a current epoch tracked a') : a'.MapsInvariant := by
  cases hends with
  | opened _ _ hadmitted => exact MapsInvariant.admitted (a := a.openGate epoch) hinverse hadmitted
  | ended before rest callId participantId hsplit _ =>
      subst hsplit
      constructor
      case inverse => exact hinverse
      case task =>
        intro task hrunning
        obtain rfl := Option.some.inj hrunning
        rw [List.map_append] at hnodup
        constructor
        · exact (List.nodup_append.mp hnodup).2.1
        · exact fun call hcall => htracked call (List.mem_append_right _ hcall)

/-- A call that has been swept is none of those that remain. -/
theorem tracked_forget {callId : String} {participantId : Int} {rest : List (String × Int)}
    (hnodup : (((callId, participantId) :: rest).map Prod.fst).Nodup)
    (htracked : ∀ call ∈ (callId, participantId) :: rest, a.participantByCallId.get call.1 = some call.2) :
    ∀ call ∈ rest, (a.forget callId participantId).participantByCallId.get call.1 = some call.2 := by
  intro call hcall
  have hne : call.1 ≠ callId := by
    rintro rfl
    exact (List.nodup_cons.mp hnodup).1 (List.mem_map.mpr ⟨call, hcall, rfl⟩)
  show (a.participantByCallId.delete callId).get call.1 = some call.2
  rw [OrderedMap.get_delete_ne hne]
  exact htracked call (List.mem_cons_of_mem _ hcall)

/-- Every turn that adds no call under a number that is taken leaves the maps inverse. -/
theorem MapsInvariant.step (h : a.MapsInvariant) (hfresh : a.FreshNumber action) (hstep : a.step config action = some a') :
    a'.MapsInvariant := by
  cases effect_of_step hstep with
  | start => exact h.same rfl rfl rfl
  | stop =>
      unfold EventAdapter.stop
      split_ifs
      · exact h.same rfl rfl rfl
      · exact h
  | connected listening => exact h.same rfl rfl rfl
  | disconnected listening => exact h.same rfl rfl rfl
  | signalled action reason ignored => exact h.same rfl rfl rfl
  | joinQueued participant => exact h.same rfl rfl rfl
  | endQueued participantId => exact h.same rfl rfl rfl
  | stale epoch isFirst rest idle head => exact h.same rfl rfl rfl
  | firstConnection rest idle head => exact h.same rfl rfl rfl
  | reconnected rest idle head =>
      constructor
      case inverse => exact h.inverse
      case task =>
        intro task hrunning
        obtain rfl := Option.some.inj hrunning
        trivial
  | joinBegins participant rest idle head _ admitted =>
      exact MapsInvariant.admitted (a := { a with waiting := rest }) h.inverse admitted
  | endUntracked participantId rest idle head => exact MapsInvariant.finish (a := { a with waiting := rest }) h.inverse _
  | endBegins participantId callId rest idle head mapped =>
      constructor
      case inverse => exact h.inverse
      case task =>
        intro task hrunning
        obtain rfl := Option.some.inj hrunning
        exact (h.inverse callId participantId).mpr mapped
  | fetched epoch current running _ ends =>
      apply MapsInvariant.sweepEnds h.inverse a.participantByCallId.nodup _ ends
      intro call hcall
      exact OrderedMap.mem_entries.mp hcall
  | fetchFailed outcome epoch running => exact .finish h.inverse _
  | swept callId participantId rest current epoch reason running gone _ ends =>
      obtain ⟨hnodup, htracked⟩ := h.task _ running
      have hpair := htracked _ List.mem_cons_self
      apply MapsInvariant.sweepEnds (inverse_forget h hpair) _ (tracked_forget hnodup htracked) ends
      exact (List.nodup_cons.mp hnodup).2
  | sweepFailed outcome callId participantId rest current epoch running => exact .finish h.inverse _
  | unresolved outcome request join rest running => exact .leave (a := a.signal _) h.inverse rest
  | resolved resolution did request join rest running hdid inbound =>
      have hunmapped := hfresh.unmapped request join rest resolution did running rfl hdid inbound
      constructor
      case inverse => exact h.inverse.set (h.task _ running) hunmapped
      case task =>
        intro task hrunning
        obtain rfl := Option.some.inj hrunning
        exact OrderedMap.get_set_self
  | joinFailed error join rest running => exact .finish h.inverse _
  | joined join rest running => exact .leave (a := a.signal _) h.inverse rest
  | joinRejected reason join rest running rejected =>
      exact .leave (a := (a.forget join.callId join.participantId).signal _) (inverse_forget h (h.task _ running)) rest
  | endFailed error participantId callId running => exact .finish h.inverse _
  | ended reason participantId callId running gone => exact .finish (inverse_forget h (h.task _ running)) _
  | endRefused reason participantId callId running gone => exact .finish h.inverse _
  | resumed rest running _ admitted => exact .admitted h.inverse admitted

theorem mapsInvariant_reached (h : Reaches (step config) FreshNumber initial a) : a.MapsInvariant :=
  h.invariant mapsInvariant_initial fun _ _ _ hinvariant hfresh hstep => hinvariant.step hfresh hstep

/-- A turn that adds a call under a number that is taken leaves maps that are not inverse. -/
theorem MapsInvariant.freshNumber_iff (h : a.MapsInvariant) (hstep : a.step config action = some a') :
    OrderedMap.Inverse a'.participantByCallId a'.callIdByParticipantId ↔ a.FreshNumber action := by
  constructor
  · intro hinverse
    constructor
    intro request join rest resolution did hrunning haction hdid hinbound
    subst haction
    -- the turn adds the call
    obtain rfl : a.participantResolved config join rest (.ok (some resolution)) = a' := by
      simpa only [EventAdapter.step, hrunning, Option.some.injEq] using hstep
    have hmaps : OrderedMap.Inverse (a.participantByCallId.set join.callId join.participantId)
        (a.callIdByParticipantId.set join.participantId join.callId) := by
      simpa [participantResolved, hdid, hinbound, route] using hinverse
    exact (h.inverse.set_iff (h.task _ hrunning)).mp hmaps
  · exact fun hfresh => (h.step hfresh hstep).inverse

/-- The maps of an adapter are inverse in every run that adds calls under new numbers only. -/
theorem maps_inverse (h : Reaches (step config) FreshNumber initial a) :
    OrderedMap.Inverse a.participantByCallId a.callIdByParticipantId :=
  (mapsInvariant_reached h).inverse

end Maps

/-! ## A number that is given out again -/

/-- Two references have their digests. -/
def twoCallersConfig : AdapterConfig :=
  { sampleConfig with
    sha256Hex := fun reference =>
      if reference = "leg" then "c7c8fc91abb8ed76c29a883381b92612dcd8235d6e7ddca8d81f6e87d5fab417"
      else "bbca67c60934d1ed00c4425b6d662d2ecd62a4f3ebdeb6baaec426e6563995e1" }

/-- Another caller, with the number of the first. -/
def secondParticipant : Participant :=
  { sampleParticipant with info := some { sampleInfo with participantUid := some "second leg", callid := some 939 } }

def isFresh (a : EventAdapter) : AdapterAction → Bool
  | .resolved _ =>
      match a.running with
      | some (.resolving _ join _) => (a.callIdByParticipantId.get join.participantId).isNone
      | _ => true
  | _ => true

theorem freshNumber_of_isFresh {a : EventAdapter} {action : AdapterAction} (h : isFresh a action = true) :
    a.FreshNumber action := by
  constructor
  intro request join rest resolution did hrunning haction _ _
  subst haction
  simpa [isFresh, hrunning] using h

/-- The first call ends, and its number is given out again. -/
def sampleRecycled : List AdapterAction :=
  sampleCall ++ [.participantDisconnected (some 53), .begin, .eventAnswered (.ok (some "call_ended")),
    .participantConnected (some secondParticipant), .begin, .resolved (.ok (some ⟨some "+15550100", some "inbound"⟩)),
    .eventAnswered (.ok (some "call_active"))]

theorem maps_inverse_recycled :
    OrderedMap.Inverse (final (step twoCallersConfig) initial sampleRecycled).participantByCallId
      (final (step twoCallersConfig) initial sampleRecycled).callIdByParticipantId :=
  @maps_inverse twoCallersConfig _
    (.of_checked (fun _ _ _ => freshNumber_of_isFresh) (by decide +kernel) (execute_final (by decide +kernel)))

/-- The end of the first call fails, so that it stays tracked when its number is given out again. -/
def sampleClobbered : List AdapterAction :=
  sampleCall ++ [.participantDisconnected (some 53), .begin, .eventAnswered (.error "the broker is unavailable"),
    .participantConnected (some secondParticipant), .begin, .resolved (.ok (some ⟨some "+15550100", some "inbound"⟩)),
    .eventAnswered (.ok (some "call_active"))]

/-- Two calls have one number, which has the second. -/
theorem number_given_twice : ¬ ∀ a, Reaches (step twoCallersConfig) Always initial a → a.running = none →
    OrderedMap.Inverse a.participantByCallId a.callIdByParticipantId := by
  intro hall
  have hinverse := hall (final (step twoCallersConfig) initial sampleClobbered)
    (.of_execute (execute_final (by decide +kernel))) (by decide +kernel)
  have hback := (hinverse "pbx-c7c8fc91abb8ed76c29a883381b92612dcd8235d6e7ddca8d81f6e87d5fab417" 53).mp
    (by decide +kernel)
  exact absurd hback (by decide +kernel)

end EventAdapter

end Connector
end VoiceAssistants
