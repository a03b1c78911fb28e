import VoiceAssistants.Connector.IntakeGate
import VoiceAssistants.Connector.ServedJoins

/-!
# A tracked call can be ended by its PBX leg

The adapter forgets a call when the join does not report `call_active`, or when its end is reported as gone; the
controller when an operation deletes it.  `RoutingInvariant` keeps the two in step: every tracked call is registered
under its participant, and what the adapter waits for says whether the call it is about is still tracked.

It is kept by the steps that are `Orderly`: the `catch` block of a `#startCall` is denied nothing, no join is
registered for the participant of another tracked call, and no sweep deletes the registration of another tracked
call.  A join that ends in `cleanup_incomplete`, `state_update_failed` or `failure_fallback_incomplete` leaves a
tracked call that no PBX leg can end (`unendable_failedStart`).
-/

namespace VoiceAssistants
namespace Connector

open Async Collections

/-- The participant of an entry. -/
def Controller.participant (c : Controller) (id : Nat) : Option Int :=
  (c.entry id).map (·.participantId)

/-- The call ids that are tracked under a participant. -/
def Controller.trackedUnder (c : Controller) (participantId : Int) : List String :=
  (c.calls.filter fun tracked => c.participant tracked.2 == some participantId).map Prod.fst

namespace Routing

/-- Every tracked call is registered under its participant, and an end of this participant reaches the controller as
the end of the call. -/
structure Endable (config : AdapterConfig) (r : Routing) : Prop where
  registered : ∀ tracked ∈ r.controller.calls, ∀ entry, r.controller.entry tracked.2 = some entry →
    r.adapter.callIdByParticipantId.get entry.participantId = some tracked.1
  reaches : ∀ tracked ∈ r.controller.calls, ∀ entry, r.controller.entry tracked.2 = some entry →
    ∀ rest, r.adapter.running = none →
      r.adapter.waiting = .participantDisconnected (some entry.participantId) :: rest →
      ∃ a, r.adapter.step config .begin = some a ∧
        a.routed = r.adapter.routed ++ [⟨EventAdapter.endEvent config tracked.1, false, r.adapter.ready⟩]

/-- A step after which the two components are still in step. -/
structure Orderly (r : Routing) (action : RoutingAction) : Prop where
  granted : ∀ a, action = .controller a → r.controller.Obeys StartGranted a
  unshared : ∀ resolution sessionId request join rest,
    action = .adapter (.resolved (.ok (some resolution))) sessionId →
    r.adapter.running = some (.resolving request join rest) → (boundedString resolution.did 64).isSome = true →
    resolution.direction = some "inbound" → r.controller.trackedUnder join.participantId = []
  own : ∀ sessionId callId participantId rest current epoch decision, action = .answered sessionId →
    r.adapter.running = some (.sweeping callId participantId rest current epoch) →
    r.awaited.bind r.controller.replied = some (.ok decision) → Gone decision.reason →
    ∀ other ∈ r.controller.trackedUnder participantId, other = callId

end Routing

/-! ## What the adapter waits for -/

/-- Every tracked call is registered in both maps. -/
def Mapped (a : EventAdapter) (c : Controller) : Prop :=
  ∀ tracked ∈ c.calls, ∀ participantId, c.participant tracked.2 = some participantId →
    a.callIdByParticipantId.get participantId = some tracked.1 ∧
      a.participantByCallId.get tracked.1 = some participantId

/-- The promise of an end event: when it reports the call as gone, the call is not tracked. -/
inductive Ending (c : Controller) (callId : String) : Reply → Prop
  | decided (decision : Decision) (gone : Gone decision.reason → c.Untracked callId) : Ending c callId (.decided decision)
  | serialized (id ticket : Nat) (cell : Cell) (found : c.cells id = some cell)
      (queued : (ticket, .pbxEnd) ∈ cell.monitor.agenda) (unique : ∀ other, (callId, other) ∈ c.calls → other = id) :
      Ending c callId (.serialized id ticket)

/-- The promise of a join event: when it does not report `call_active`, the call is not tracked. -/
inductive Joining (c : Controller) (join : PendingJoin) : Reply → Prop
  | decided (decision : Decision) (untracked : c.Untracked join.callId) : Joining c join (.decided decision)
  | joining (id : Nat) (serving : c.Serving id join.callId join.participantId) : Joining c join (.joining id)

/-- What holds of the adapter and its controller. -/
structure RoutingInvariant (r : Routing) : Prop where
  mapped : Mapped r.adapter r.controller
  claiming : ∀ id task, r.controller.joins id = some task → task.phase.Claiming →
    r.awaited = some (.joining id) ∧ ∃ join rest, r.adapter.running = some (.joining join rest)
  resolving : ∀ request join rest, r.adapter.running = some (.resolving request join rest) →
    r.adapter.participantByCallId.get join.callId = none
  joining : ∀ join rest, r.adapter.running = some (.joining join rest) →
    r.adapter.callIdByParticipantId.get join.participantId = some join.callId ∧
      r.adapter.participantByCallId.get join.callId = some join.participantId ∧
      ∃ reply, r.awaited = some reply ∧ Joining r.controller join reply
  ending : ∀ participantId callId, r.adapter.running = some (.ending participantId callId) →
    r.adapter.callIdByParticipantId.get participantId = some callId ∧
      ∃ reply, r.awaited = some reply ∧ Ending r.controller callId reply
  sweeping : ∀ callId participantId rest current epoch,
    r.adapter.running = some (.sweeping callId participantId rest current epoch) →
    ∃ reply, r.awaited = some reply ∧ Ending r.controller callId reply

section Maps

variable {a a' : EventAdapter} {c c' : Controller} {callId : String} {participantId : Int}

theorem mem_trackedUnder {id : Nat} (hmem : (callId, id) ∈ c.calls) (hparticipant : c.participant id = some participantId) :
    callId ∈ c.trackedUnder participantId :=
  List.mem_map.mpr ⟨(callId, id), List.mem_filter.mpr ⟨hmem, by simp [hparticipant]⟩, rfl⟩

/-- The maps stay, and the tracked calls with their participants were tracked before. -/
theorem Mapped.mono (h : Mapped a c) (hid : a'.callIdByParticipantId = a.callIdByParticipantId)
    (hcall : a'.participantByCallId = a.participantByCallId)
    (hcalls : ∀ tracked ∈ c'.calls, tracked ∈ c.calls ∧ c'.participant tracked.2 = c.participant tracked.2) :
    Mapped a' c' := by
  intro tracked hmem p hp
  obtain ⟨hold, hsame⟩ := hcalls tracked hmem
  rw [hid, hcall]
  exact h tracked hold p (hsame ▸ hp)

/-- A call that is not tracked is forgotten. -/
theorem Mapped.forget (h : Mapped a c) (huntracked : c.Untracked callId)
    (hown : ∀ other ∈ c.trackedUnder participantId, other = callId) : Mapped (a.forget callId participantId) c := by
  intro tracked hmem p hp
  obtain ⟨hid, hcall⟩ := h tracked hmem p hp
  have hne : tracked.1 ≠ callId := by
    rintro rfl
    exact huntracked tracked.2 hmem
  constructor
  · show (a.callIdByParticipantId.delete participantId).get p = some tracked.1
    rw [OrderedMap.get_delete_ne]
    · exact hid
    · rintro rfl
      exact hne (hown tracked.1 (mem_trackedUnder hmem hp))
  · show (a.participantByCallId.delete callId).get tracked.1 = some p
    rw [OrderedMap.get_delete_ne hne]
    exact hcall

/-- A call that is not tracked, and registered under its participant, shares it with no tracked call. -/
theorem Mapped.own (h : Mapped a c) (hid : a.callIdByParticipantId.get participantId = some callId) :
    ∀ other ∈ c.trackedUnder participantId, other = callId := by
  intro other hmem
  obtain ⟨tracked, htracked, rfl⟩ := List.mem_map.mp hmem
  obtain ⟨hold, hparticipant⟩ := List.mem_filter.mp htracked
  obtain ⟨hmapped, -⟩ := h tracked hold participantId (by simpa using hparticipant)
  rw [hid] at hmapped
  exact (Option.some.inj hmapped).symm

end Maps

/-! ## Turns of the controller -/

section Controllers

variable {binding : TenantBinding} {c c' : Controller} {a : Action} {callId : String}

/-- The participant of an entry never changes. -/
theorem participant_step (hinv : ControllerInvariant c) (hstep : c.step a = some c') {id : Nat} {cell : Cell}
    (hcell : c.cells id = some cell) : c'.participant id = c.participant id := by
  cases (Controller.step_outcome hinv.joins hstep).effect with
  | same cells count calls => rw [Controller.participant, Controller.entry, cells]; rfl
  | changed other old new found cells count calls change =>
      exact entry_update (fun _ _ hsame => hsame.2.2.2.1) (hinv.cells other old found) found cells change id
  | forgot other old new found cells count emitted calls change =>
      exact entry_update (fun _ _ hsame => hsame.2.2.2.1) (hinv.cells other old found) found cells change id
  | opened entry unstarted cells count calls claims =>
      have hne : id ≠ c.cellCount := by
        rintro rfl
        rw [hinv.bounded _ (Nat.le_refl _)] at hcell
        cases hcell
      rw [Controller.participant, Controller.entry, cells, Function.update_of_ne hne]
      rfl

/-- The participant of a tracked call never changes. -/
theorem tracked_participant (hinv : ControllerInvariant c) (hstep : c.step a = some c') {tracked : String × Nat}
    (hmem : tracked ∈ c.calls) : c'.participant tracked.2 = c.participant tracked.2 := by
  obtain ⟨cell, hcell⟩ := hinv.tracked_cell hmem
  exact participant_step hinv hstep hcell

/-- No turn makes a join wait for its claim. -/
theorem Controller.Turn.claiming (h : Turn c c') {id : Nat} {task : JoinTask} (hfound : c'.joins id = some task)
    (hclaiming : task.phase.Claiming) : ∃ old, c.joins id = some old ∧ old.phase.Claiming := by
  have hkeep (hsame : c'.joins id = c.joins id) : ∃ old, c.joins id = some old ∧ old.phase.Claiming :=
    ⟨task, hsame ▸ hfound, hclaiming⟩
  cases h with
  | calm _ joins calls => exact hkeep (by rw [joins])
  | ran join residual p marks own claims found safe =>
      by_cases heq : id = join
      · subst heq
        exact ⟨_, found, trivial⟩
      · obtain ⟨task', calls, cells, count, -, hrun⟩ :=
          Controller.runJoin_eq { c with claims := claims } join own p
        rw [hrun] at hfound
        exact ⟨task, by rw [← hfound]; exact (Function.update_of_ne heq ..).symm, hclaiming⟩
  | started join other marks result found outcome =>
      by_cases heq : id = join
      · rw [heq] at hfound
        obtain rfl := Option.some.inj ((Function.update_self join _ c.joins).symm.trans hfound)
        exact hclaiming.elim
      · exact hkeep (Function.update_of_ne heq ..)
  | finished _ join marks result found joins calls =>
      by_cases heq : id = join
      · rw [heq, joins, Function.update_self] at hfound
        obtain rfl := Option.some.inj hfound
        exact hclaiming.elim
      · exact hkeep (by rw [joins, Function.update_of_ne heq])

theorem untracked_of_lookup (h : c.lookup callId = none) : c.Untracked callId := by
  intro id hmem
  have hnone := List.find?_eq_none.mp (Option.map_eq_none_iff.mp h) (callId, id) hmem
  simp at hnone

/-- The entry that is found is the only one of its call. -/
theorem lookup_unique (hkeys : (c.calls.map Prod.fst).Nodup) {id : Nat} (h : c.lookup callId = some id) :
    (callId, id) ∈ c.calls ∧ ∀ other, (callId, other) ∈ c.calls → other = id := by
  obtain ⟨tracked, hfind, rfl⟩ := Option.map_eq_some_iff.mp h
  have hkey : tracked.1 = callId := by
    simpa using List.find?_some hfind
  have hmem : (callId, tracked.2) ∈ c.calls := hkey ▸ List.mem_of_find?_eq_some hfind
  refine ⟨hmem, ?_⟩
  intro other hother
  exact congrArg Prod.snd (List.inj_on_of_nodup_map hkeys hother hmem rfl)

/-- The promise of an end event stays one when the map only loses calls. -/
theorem Ending.mono {reply : Reply} (h : Ending c callId reply) (hcalls : ∀ tracked ∈ c'.calls, tracked ∈ c.calls)
    (hgrows : c.Grows c') : Ending c' callId reply := by
  cases h with
  | decided decision gone => exact .decided decision fun hgone => (gone hgone).mono hcalls
  | serialized id ticket cell found queued unique =>
      obtain ⟨cell', found', hcell⟩ := hgrows id cell found
      apply Ending.serialized id ticket cell' found'
      · exact hcell.agenda.subset queued
      · exact fun other hmem => unique other (hcalls _ hmem)

/-- Once an end event has been answered as gone, its call is not tracked. -/
theorem Ending.replied {reply : Reply} {decision : Decision} (h : Ending c callId reply) (hinv : ControllerInvariant c)
    (htracked : TrackedInvariant c) (hreply : c.replied reply = some (.ok decision)) (hgone : Gone decision.reason) :
    c.Untracked callId := by
  cases h with
  | decided result gone =>
      obtain rfl := Except.ok.inj (Option.some.inj hreply)
      exact gone hgone
  | serialized id ticket cell found queued unique =>
      intro other hmem
      have hended := htracked.ended hinv found queued hreply hgone callId
      exact hended (unique other hmem ▸ hmem)

/-- An end event has been handed over: no call and no join comes of it. -/
structure Ends (c : Controller) (callId : String) (handled : Controller × Reply) : Prop where
  reply : Ending handled.1 callId handled.2
  calls : handled.1.calls = c.calls
  joins : handled.1.joins = c.joins

theorem ends_refuse {reason : String} (h : Gone reason → c.Untracked callId) : Ends c callId (c.refuse reason) :=
  ⟨.decided _ h, rfl, rfl⟩

/-- `handleEvent` of the end of a call. -/
theorem ends_handleEvent (hinv : ControllerInvariant c) (htracked : TrackedInvariant c) (config : AdapterConfig)
    (callId sessionId : String) :
    Ends c callId (c.handleEvent (some (EventAdapter.endEvent config callId)) sessionId) := by
  show Ends c callId (c.endEvent (EventAdapter.endEvent config callId))
  have hinvalid : ¬ Gone "invalid_end_event" := by simp [Gone]
  unfold Controller.endEvent
  split
  · rename_i callId' eventId hcallId' _
    obtain rfl := Option.some.inj (boundedString_eq_some hcallId')
    split
    · exact ends_refuse fun h => absurd h hinvalid
    · cases hlookup : c.lookup callId with
      | none => exact ends_refuse fun _ => untracked_of_lookup hlookup
      | some id =>
          obtain ⟨hmem, hunique⟩ := lookup_unique htracked.keys hlookup
          obtain ⟨cell, hcell⟩ := hinv.tracked_cell hmem
          simp only [Controller.queue, Controller.serialize, hcell]
          refine ⟨?_, rfl, rfl⟩
          apply Ending.serialized id cell.monitor.issued _ (Controller.setCell_cells_self ..)
          · rw [Monitor.enqueue_agenda]
            exact List.mem_append_right _ List.mem_cons_self
          · exact hunique
  · exact ends_refuse fun h => absurd h hinvalid

/-- A join event has been handed over: the one call that may come of it is that of the join. -/
structure Joins (c : Controller) (join : PendingJoin) (handled : Controller × Reply) : Prop where
  reply : Joining handled.1 join handled.2
  calls : ∀ tracked ∈ handled.1.calls, tracked ∈ c.calls ∨
    tracked.1 = join.callId ∧ handled.1.participant tracked.2 = some join.participantId
  claiming : ∀ id task, handled.1.joins id = some task → task.phase.Claiming →
    handled.2 = .joining id ∨ ∃ old, c.joins id = some old ∧ old.phase.Claiming

/-- `handleEvent` of a join. -/
theorem joins_handleEvent (config : AdapterConfig) {join : PendingJoin} (did sessionId : String)
    (huntracked : c.Untracked join.callId) :
    Joins c join (c.handleEvent (some (EventAdapter.joinEvent config join did)) sessionId) := by
  have htype : ¬ (EventAdapter.joinEvent config join did).type = some ROUTE_POINT_END := by
    simp [EventAdapter.joinEvent, ROUTE_POINT_JOIN, ROUTE_POINT_END]
  unfold Controller.handleEvent
  dsimp only
  rw [if_neg htype]
  split
  · exact ⟨.decided _ huntracked, fun _ => .inl, fun id task hfound hclaiming => .inr ⟨task, hfound, hclaiming⟩⟩
  · have hsafe : (handleJoinEvent c.binding (EventAdapter.joinEvent config join did) sessionId).Safe freeJoins
        (Admits join.callId join.participantId) () [] :=
      admits_handleJoinEvent rfl rfl sessionId
    have hran := Controller.ran_runJoin
      { c with joinCount := c.joinCount + 1, inflightJoins := c.inflightJoins ++ [c.joinCount] } c.joinCount hsafe
    constructor
    · exact .joining _ (hran.serving huntracked)
    · intro tracked hmem
      rcases hran.calls tracked hmem with hold | ⟨rfl, hparticipant⟩
      · exact .inl hold
      · exact .inr ⟨rfl, hparticipant⟩
    · intro id task hfound hclaiming
      by_cases heq : id = c.joinCount
      · exact .inl (heq ▸ rfl)
      · rw [hran.joins_ne heq] at hfound
        exact .inr ⟨task, hfound, hclaiming⟩

end Controllers

/-! ## Turns of the two -/

/-- The task in progress waits for no promise of the controller. -/
def AdapterTask.Free (a : EventAdapter) : AdapterTask → Prop
  | .fetching _ => True
  | .returning _ => True
  | .resolving _ join _ => a.participantByCallId.get join.callId = none
  | .sweeping _ _ _ _ _ => False
  | .joining _ _ => False
  | .ending _ _ => False

/-- The task in progress waits for the answer to the end of a call. -/
def AdapterTask.Ends (a : EventAdapter) (callId : String) : AdapterTask → Prop
  | .ending participantId ended => ended = callId ∧ a.callIdByParticipantId.get participantId = some callId
  | .sweeping swept _ _ _ _ => swept = callId
  | _ => False

section Both

variable {config : AdapterConfig} {r r' : Routing} {a b : EventAdapter} {c : Controller} {callId sessionId : String}

/-- A call whose id is not registered is not tracked. -/
theorem Mapped.untracked (h : Mapped a c) (hinv : ControllerInvariant c)
    (hnone : a.participantByCallId.get callId = none) : c.Untracked callId := by
  intro id hmem
  obtain ⟨cell, hcell⟩ := hinv.tracked_cell hmem
  have hparticipant : c.participant id = some cell.monitor.state.participantId := by
    simp [Controller.participant, Controller.entry, hcell]
  obtain ⟨-, hcall⟩ := h (callId, id) hmem _ hparticipant
  rw [hnone] at hcall
  cases hcall

/-- No join waits for its claim while the adapter is not joining. -/
theorem RoutingInvariant.closed (h : RoutingInvariant r)
    (hrunning : ∀ join rest, r.adapter.running ≠ some (.joining join rest)) : r.controller.Closed := by
  intro id task hfound hclaiming
  obtain ⟨-, join, rest, hjoining⟩ := h.claiming id task hfound hclaiming
  exact hrunning join rest hjoining

/-- No join waits for its claim once the promise that is awaited has settled. -/
theorem RoutingInvariant.closed_replied (h : RoutingInvariant r) {outcome : Except String Decision}
    (houtcome : r.awaited.bind r.controller.replied = some outcome) : r.controller.Closed := by
  intro id task hfound hclaiming
  obtain ⟨hawaited, -⟩ := h.claiming id task hfound hclaiming
  rw [hawaited, Option.bind_some, Controller.replied, hfound] at houtcome
  obtain ⟨phase, marks⟩ := task
  cases phase with
  | claiming residual => cases houtcome
  | starting id => exact hclaiming
  | settled result => exact hclaiming
  | finished result => exact hclaiming

/-- The adapter waits for no promise. -/
theorem routingInvariant_free (hmapped : Mapped a c) (hclosed : c.Closed)
    (hfree : ∀ task, a.running = some task → task.Free a) (awaited : Option Reply) :
    RoutingInvariant ⟨a, c, awaited⟩ where
  mapped := hmapped
  claiming id task hfound hclaiming := absurd hclaiming (hclosed id task hfound)
  resolving _ _ _ hrunning := hfree _ hrunning
  joining _ _ hrunning := (hfree _ hrunning).elim
  ending _ _ hrunning := (hfree _ hrunning).elim
  sweeping _ _ _ _ _ hrunning := (hfree _ hrunning).elim

/-- A turn of the adapter after which it waits for no promise. -/
theorem RoutingInvariant.handOver_free (hmapped : Mapped a r.controller) (hclosed : r.controller.Closed)
    (hfree : ∀ task, a.running = some task → task.Free a) (hsame : a.routed = r.adapter.routed) :
    RoutingInvariant (r.handOver a sessionId) := by
  rw [Routing.handOver_nothing (.nothing hsame)]
  exact routingInvariant_free hmapped hclosed hfree r.awaited

/-- A turn of the adapter that hands over the end of a call. -/
theorem RoutingInvariant.handOver_end (hmapped : Mapped a r.controller) (hclosed : r.controller.Closed)
    (hinv : ControllerInvariant r.controller) (htracked : TrackedInvariant r.controller) {task : AdapterTask}
    (hrunning : a.running = some task) (hends : task.Ends a callId) {swept ready : Bool}
    (hrouted : a.routed = r.adapter.routed ++ [⟨EventAdapter.endEvent config callId, swept, ready⟩]) :
    RoutingInvariant (r.handOver a sessionId) := by
  rw [Routing.handOver_event (.event _ hrouted)]
  have hhanded := ends_handleEvent hinv htracked config callId sessionId
  have hstep : r.controller.step (.handleEvent (some (EventAdapter.endEvent config callId)) sessionId) =
      some (r.controller.handleEvent (some (EventAdapter.endEvent config callId)) sessionId).1 := rfl
  have hnot {other : AdapterTask} (hother : a.running = some other) (hfree : ¬ other.Ends a callId) : False := by
    rw [hrunning] at hother
    exact hfree (Option.some.inj hother ▸ hends)
  constructor
  · apply hmapped.mono rfl rfl
    intro tracked hmem
    rw [hhanded.calls] at hmem
    exact ⟨hmem, tracked_participant hinv hstep hmem⟩
  · intro id task hfound hclaiming
    exact absurd hclaiming (hclosed id task (hhanded.joins ▸ hfound))
  · exact fun _ _ _ hother => (hnot hother fun h => h).elim
  · exact fun _ _ hother => (hnot hother fun h => h).elim
  · intro participantId ended hother
    rw [hrunning] at hother
    obtain rfl := Option.some.inj hother
    obtain ⟨rfl, hregistered⟩ := hends
    exact ⟨hregistered, _, rfl, hhanded.reply⟩
  · intro ended participantId rest current epoch hother
    rw [hrunning] at hother
    obtain rfl := Option.some.inj hother
    obtain rfl : ended = callId := hends
    exact ⟨_, rfl, hhanded.reply⟩

/-- The participant whose call is claimed is registered before the claim. -/
theorem Mapped.register {join : PendingJoin} (h : Mapped a c) (huntracked : c.Untracked join.callId)
    (hunshared : c.trackedUnder join.participantId = []) {tracked : String × Nat} (hmem : tracked ∈ c.calls)
    {participantId : Int} (hparticipant : c.participant tracked.2 = some participantId) :
    (a.callIdByParticipantId.set join.participantId join.callId).get participantId = some tracked.1 ∧
      (a.participantByCallId.set join.callId join.participantId).get tracked.1 = some participantId := by
  obtain ⟨hid, hcall⟩ := h tracked hmem participantId hparticipant
  have hparticipants : participantId ≠ join.participantId := by
    rintro rfl
    have hunder := mem_trackedUnder hmem hparticipant
    rw [hunshared] at hunder
    exact List.not_mem_nil hunder
  have hcalls : tracked.1 ≠ join.callId := by
    intro heq
    exact huntracked tracked.2 (heq ▸ hmem)
  constructor
  · rw [OrderedMap.get_set_ne hparticipants]
    exact hid
  · rw [OrderedMap.get_set_ne hcalls]
    exact hcall

/-- A turn of the adapter that registers a call and hands its join over. -/
theorem RoutingInvariant.handOver_join (h : RoutingInvariant r) (hinv : ControllerInvariant r.controller)
    {request : ResolveRequest} {join : PendingJoin} {rest : Option (List (String × SnapshotRow))} {did : String}
    (hrunning : r.adapter.running = some (.resolving request join rest))
    (hunshared : r.controller.trackedUnder join.participantId = [])
    (hid : a.callIdByParticipantId = r.adapter.callIdByParticipantId.set join.participantId join.callId)
    (hcall : a.participantByCallId = r.adapter.participantByCallId.set join.callId join.participantId)
    (hjoining : a.running = some (.joining join rest)) {swept ready : Bool}
    (hrouted : a.routed = r.adapter.routed ++ [⟨EventAdapter.joinEvent config join did, swept, ready⟩]) :
    RoutingInvariant (r.handOver a sessionId) := by
  have huntracked := h.mapped.untracked hinv (h.resolving request join rest hrunning)
  have hclosed : r.controller.Closed := by
    apply h.closed
    intro join' rest' hother
    rw [hrunning] at hother
    cases hother
  rw [Routing.handOver_event (.event _ hrouted)]
  have hhanded := joins_handleEvent config did sessionId huntracked
  have hstep : r.controller.step (.handleEvent (some (EventAdapter.joinEvent config join did)) sessionId) =
      some (r.controller.handleEvent (some (EventAdapter.joinEvent config join did)) sessionId).1 := rfl
  constructor
  · intro tracked hmem participantId hparticipant
    show a.callIdByParticipantId.get participantId = some tracked.1 ∧
      a.participantByCallId.get tracked.1 = some participantId
    rw [hid, hcall]
    rcases hhanded.calls tracked hmem with hold | ⟨hnew, hjoined⟩
    · apply h.mapped.register huntracked hunshared hold
      rw [← tracked_participant hinv hstep hold]
      exact hparticipant
    · obtain rfl := Option.some.inj (hjoined.symm.trans hparticipant)
      rw [hnew]
      exact ⟨OrderedMap.get_set_self, OrderedMap.get_set_self⟩
  · intro id task hfound hclaiming
    rcases hhanded.claiming id task hfound hclaiming with hreply | ⟨old, hold, hwas⟩
    · exact ⟨congrArg some hreply, join, rest, hjoining⟩
    · exact absurd hwas (hclosed id old hold)
  · intro request' join' rest' hother
    rw [hjoining] at hother
    cases hother
  · intro join' rest' hother
    rw [hjoining] at hother
    obtain ⟨rfl, -⟩ := AdapterTask.joining.inj (Option.some.inj hother)
    refine ⟨?_, ?_, _, rfl, hhanded.reply⟩
    · rw [hid, OrderedMap.get_set_self]
    · rw [hcall, OrderedMap.get_set_self]
  · intro participantId callId hother
    rw [hjoining] at hother
    cases hother
  · intro callId participantId rest' current epoch hother
    rw [hjoining] at hother
    cases hother

/-- What is known of the controller in every state of a run. -/
structure Known (c : Controller) : Prop where
  controller : ControllerInvariant c
  tracked : TrackedInvariant c
  kept : ∀ id cell, c.cells id = some cell → AnswersKept StartGranted cell

/-- The promise of a join after a turn of the controller. -/
theorem Joining.turn {c' : Controller} {join : PendingJoin} {reply : Reply} (h : Joining c join reply) (hknown : Known c)
    (honly : ∀ id task, c.joins id = some task → task.phase.Claiming → reply = .joining id)
    (hturn : c.Turn c') : Joining c' join reply := by
  cases h with
  | decided decision untracked =>
      apply Joining.decided
      cases hturn with
      | calm _ joins calls => exact untracked.mono calls
      | ran id residual p marks own claims found safe =>
          cases honly id _ found trivial
      | started id other marks result found outcome => exact untracked
      | finished _ id marks result found joins calls => exact untracked.mono fun _ hmem => calls ▸ hmem
  | joining id serving =>
      apply Joining.joining
      apply serving.turn hknown.controller hknown.tracked hknown.kept _ hturn
      intro other task hfound hclaiming
      exact (Reply.joining.inj (honly other task hfound hclaiming)).symm

/-- A turn of the controller tracks the call of the join that the adapter waits for, or no new one. -/
theorem RoutingInvariant.turn_calls (h : RoutingInvariant r) {c' : Controller} (hturn : r.controller.Turn c') :
    ∀ tracked ∈ c'.calls, tracked ∈ r.controller.calls ∨ ∃ join rest,
      r.adapter.running = some (.joining join rest) ∧ tracked.1 = join.callId ∧
        c'.participant tracked.2 = some join.participantId := by
  intro tracked hmem
  cases hturn with
  | calm _ joins calls => exact .inl (calls tracked hmem)
  | started id other marks result found outcome => exact .inl hmem
  | finished _ id marks result found joins calls => exact .inl (calls ▸ hmem)
  | ran id residual p marks own claims found safe =>
      obtain ⟨hawaited, join, rest, hrunning⟩ := h.claiming id _ found trivial
      obtain ⟨-, -, reply, hreply, hjoining⟩ := h.joining join rest hrunning
      rw [hawaited] at hreply
      obtain rfl := Option.some.inj hreply
      cases hjoining with
      | joining _ serving =>
          -- the join that runs is the one that serves the call
          cases serving with
          | claiming residual' marks' found' resting untracked =>
              rw [found] at found'
              obtain ⟨hphase, rfl⟩ := JoinTask.mk.inj (Option.some.inj found')
              obtain rfl := JoinPhase.claiming.inj hphase
              have hran := Controller.ran_runJoin { r.controller with claims := claims } id (safe _ resting)
              rcases hran.calls tracked hmem with hold | ⟨rfl, hparticipant⟩
              · exact .inl hold
              · exact .inr ⟨join, rest, hrunning, rfl, hparticipant⟩
          | starting other marks' found' unique =>
              rw [found] at found'
              cases found'
          | served result marks' found' untracked =>
              rw [found] at found'
              rcases found' with heq | heq <;> cases heq

/-- **A turn of the controller keeps the two in step.** -/
theorem RoutingInvariant.controller_step (h : RoutingInvariant r) (hknown : Known r.controller) {action : Action}
    (hevent : action.isEvent = false) {c' : Controller} (hstep : r.controller.step action = some c') :
    RoutingInvariant { r with controller := c' } := by
  have hturn := Controller.turn_of_step hevent hstep
  have hcalls := h.turn_calls hturn
  have hgrows := hknown.controller.grows hstep
  have hless (hrunning : ∀ join rest, r.adapter.running ≠ some (.joining join rest)) :
      ∀ tracked ∈ c'.calls, tracked ∈ r.controller.calls := by
    intro tracked hmem
    rcases hcalls tracked hmem with hold | ⟨join, rest, hjoining, -⟩
    · exact hold
    · exact absurd hjoining (hrunning join rest)
  constructor
  · intro tracked hmem participantId hparticipant
    rcases hcalls tracked hmem with hold | ⟨join, rest, hrunning, hcall, hjoined⟩
    · apply h.mapped tracked hold
      rw [← tracked_participant hknown.controller hstep hold]
      exact hparticipant
    · obtain ⟨hid, hregistered, -⟩ := h.joining join rest hrunning
      obtain rfl := Option.some.inj (hjoined.symm.trans hparticipant)
      rw [hcall]
      exact ⟨hid, hregistered⟩
  · intro id task hfound hclaiming
    obtain ⟨old, hold, hwas⟩ := hturn.claiming hfound hclaiming
    exact h.claiming id old hold hwas
  · exact h.resolving
  · intro join rest hrunning
    obtain ⟨hid, hcall, reply, hawaited, hjoining⟩ := h.joining join rest hrunning
    refine ⟨hid, hcall, reply, hawaited, hjoining.turn hknown ?_ hturn⟩
    intro id task hfound hclaiming
    obtain ⟨hclaims, -⟩ := h.claiming id task hfound hclaiming
    exact Option.some.inj (hawaited.symm.trans hclaims)
  · intro participantId callId hrunning
    obtain ⟨hid, reply, hawaited, hending⟩ := h.ending participantId callId hrunning
    refine ⟨hid, reply, hawaited, hending.mono (hless ?_) hgrows⟩
    intro join rest hjoining
    rw [hrunning] at hjoining
    cases hjoining
  · intro callId participantId rest current epoch hrunning
    obtain ⟨reply, hawaited, hending⟩ := h.sweeping callId participantId rest current epoch hrunning
    refine ⟨reply, hawaited, hending.mono (hless ?_) hgrows⟩
    intro join rest' hjoining
    rw [hrunning] at hjoining
    cases hjoining

/-- The gate asks the resolver, or waits for nothing. -/
theorem free_of_admitted (h : EventAdapter.Admitted b a) :
    (a.callIdByParticipantId = b.callIdByParticipantId ∧ a.participantByCallId = b.participantByCallId) ∧
      (∀ task, a.running = some task → task.Free a) ∧ a.routed = b.routed := by
  cases h with
  | left signals rest =>
      refine ⟨⟨rfl, rfl⟩, ?_, rfl⟩
      intro task hrunning
      obtain ⟨rows, -, rfl⟩ := Option.map_eq_some_iff.mp hrunning
      trivial
  | resolving signals request join rest accepting unmapped =>
      refine ⟨⟨rfl, rfl⟩, ?_, rfl⟩
      intro task hrunning
      obtain rfl := Option.some.inj hrunning
      exact unmapped

theorem Mapped.maps (h : Mapped a c) (hsame : b.callIdByParticipantId = a.callIdByParticipantId ∧
    b.participantByCallId = a.participantByCallId) : Mapped b c :=
  h.mono hsame.1 hsame.2 fun _ hmem => ⟨hmem, rfl⟩

/-- A turn of the adapter that ends at the gate. -/
theorem RoutingInvariant.handOver_admitted (hmapped : Mapped b r.controller) (hclosed : r.controller.Closed)
    (hsame : b.routed = r.adapter.routed) (hadmitted : EventAdapter.Admitted b a) :
    RoutingInvariant (r.handOver a sessionId) := by
  obtain ⟨hmaps, hfree, hrouted⟩ := free_of_admitted hadmitted
  exact handOver_free (hmapped.maps hmaps) hclosed hfree (hrouted.trans hsame)

/-- A turn of the adapter that goes on with the loop over the tracked calls. -/
theorem RoutingInvariant.handOver_sweep (hmapped : Mapped b r.controller) (hclosed : r.controller.Closed)
    (hknown : Known r.controller) (hsame : b.routed = r.adapter.routed) {current : Snapshot} {epoch : Nat}
    {tracked : List (String × Int)} (hends : EventAdapter.SweepEnds config b current epoch tracked a) :
    RoutingInvariant (r.handOver a sessionId) := by
  cases hends with
  | opened _ all admitted =>
      have hopened : Mapped (b.openGate epoch) r.controller := hmapped.maps ⟨rfl, rfl⟩
      exact handOver_admitted hopened hclosed hsame admitted
  | ended before rest callId participantId split gone =>
      have hswept : Mapped ({ b with running := some (.sweeping callId participantId rest current epoch) }.route
          (EventAdapter.endEvent config callId) true) r.controller := hmapped.maps ⟨rfl, rfl⟩
      refine handOver_end hswept hclosed hknown.controller hknown.tracked rfl ?_ (congrArg (· ++ _) hsame)
      rfl

/-- A turn of the adapter that leaves the task in progress and the maps. -/
theorem RoutingInvariant.handOver_aside (h : RoutingInvariant r) (hrunning : a.running = r.adapter.running)
    (hid : a.callIdByParticipantId = r.adapter.callIdByParticipantId)
    (hcall : a.participantByCallId = r.adapter.participantByCallId) (hsame : a.routed = r.adapter.routed) :
    RoutingInvariant (r.handOver a sessionId) := by
  rw [Routing.handOver_nothing (.nothing hsame)]
  constructor
  · exact h.mapped.maps ⟨hid, hcall⟩
  · intro id task hfound hclaiming
    show _ ∧ ∃ join rest, a.running = some (.joining join rest)
    rw [hrunning]
    exact h.claiming id task hfound hclaiming
  · intro request join rest hother
    show a.participantByCallId.get join.callId = none
    rw [hcall]
    exact h.resolving request join rest (hrunning ▸ hother)
  · intro join rest hother
    show a.callIdByParticipantId.get join.participantId = some join.callId ∧
      a.participantByCallId.get join.callId = some join.participantId ∧ _
    rw [hid, hcall]
    exact h.joining join rest (hrunning ▸ hother)
  · intro participantId callId hother
    show a.callIdByParticipantId.get participantId = some callId ∧ _
    rw [hid]
    exact h.ending participantId callId (hrunning ▸ hother)
  · exact fun callId participantId rest current epoch hother =>
      h.sweeping callId participantId rest current epoch (hrunning ▸ hother)

/-- Once a join has been answered with anything but `call_active`, its call is not tracked. -/
theorem Joining.replied {join : PendingJoin} {reply : Reply} {decision : Decision} (h : Joining c join reply)
    (hreply : c.replied reply = some (.ok decision)) (hrejected : decision.reason ≠ "call_active") :
    c.Untracked join.callId := by
  cases h with
  | decided result untracked => exact untracked
  | joining id serving =>
      simp only [Controller.replied] at hreply
      split at hreply
      · rename_i result marks hfound
        obtain rfl := Option.some.inj hreply
        cases serving with
        | claiming residual marks' found resting untracked =>
            rw [hfound] at found
            cases found
        | starting other marks' found unique =>
            rw [hfound] at found
            cases found
        | served result marks' found untracked =>
            rw [hfound] at found
            rcases found with heq | heq
            · cases heq
            · obtain rfl := JoinPhase.finished.inj (JoinTask.mk.inj (Option.some.inj heq)).1
              exact untracked decision rfl hrejected
      · cases hreply

theorem gone_of_endsCall {reason : String} (h : EventAdapter.endsCall (some reason) = true) : Gone reason := by
  simpa [EventAdapter.endsCall, Gone, or_assoc] using h

/-- An answer of the controller that the adapter reads is a decision. -/
theorem decision_of_report {outcome : Except String Decision} {reason : Option String}
    (h : outcome.map (fun decision => some decision.reason) = .ok reason) :
    ∃ decision, outcome = .ok decision ∧ reason = some decision.reason := by
  cases outcome with
  | error error => cases h
  | ok decision => exact ⟨decision, rfl, (Except.ok.inj h).symm⟩

theorem settled_finish {reason : String} : ∀ task, (a.finish reason).running = some task → task.Free (a.finish reason) := by
  intro task hrunning
  cases hrunning

theorem settled_leave (rest : Option (List (String × SnapshotRow))) :
    ∀ task, (a.leave rest).running = some task → task.Free (a.leave rest) := by
  intro task hrunning
  obtain ⟨rows, -, rfl⟩ := Option.map_eq_some_iff.mp hrunning
  trivial

/-- **The answer of the controller keeps the two in step.** -/
theorem RoutingInvariant.answered_step (h : RoutingInvariant r) (hknown : Known r.controller)
    (horderly : r.Orderly (.answered sessionId)) {outcome : Except String Decision}
    (houtcome : r.awaited.bind r.controller.replied = some outcome)
    (hstep : r.adapter.step config (.eventAnswered (outcome.map fun decision => some decision.reason)) = some a) :
    RoutingInvariant ({ r with awaited := none }.handOver a sessionId) := by
  have hclosed := h.closed_replied houtcome
  have hreply {reply : Reply} (hawaited : r.awaited = some reply) : r.controller.replied reply = some outcome := by
    rw [hawaited] at houtcome
    exact houtcome
  generalize hreport : outcome.map (fun decision => some decision.reason) = report at hstep
  cases EventAdapter.effect_of_step hstep with
  | signalled _ reason ignored => rcases ignored with heq | heq <;> cases heq
  | swept callId participantId rest current epoch reason running gone _ ends =>
      obtain ⟨decision, rfl, rfl⟩ := decision_of_report hreport
      obtain ⟨reply, hawaited, hending⟩ := h.sweeping callId participantId rest current epoch running
      have hgone := gone_of_endsCall gone
      have huntracked := hending.replied hknown.controller hknown.tracked (hreply hawaited) hgone
      have hown := horderly.own sessionId callId participantId rest current epoch decision rfl running houtcome hgone
      exact handOver_sweep (h.mapped.forget huntracked hown) hclosed hknown rfl ends
  | sweepFailed _ callId participantId rest current epoch running =>
      exact handOver_free (h.mapped.maps ⟨rfl, rfl⟩) hclosed settled_finish rfl
  | joinFailed error join rest running => exact handOver_free (h.mapped.maps ⟨rfl, rfl⟩) hclosed settled_finish rfl
  | joined join rest running => exact handOver_free (h.mapped.maps ⟨rfl, rfl⟩) hclosed (settled_leave rest) rfl
  | joinRejected reason join rest running rejected =>
      obtain ⟨decision, rfl, rfl⟩ := decision_of_report hreport
      obtain ⟨hid, -, reply, hawaited, hjoining⟩ := h.joining join rest running
      have huntracked := hjoining.replied (hreply hawaited) fun hactive => rejected (congrArg some hactive)
      have hforgotten := h.mapped.forget huntracked (h.mapped.own hid)
      exact handOver_free (hforgotten.maps ⟨rfl, rfl⟩) hclosed (settled_leave rest) rfl
  | endFailed error participantId callId running =>
      exact handOver_free (h.mapped.maps ⟨rfl, rfl⟩) hclosed settled_finish rfl
  | ended reason participantId callId running gone =>
      obtain ⟨decision, rfl, rfl⟩ := decision_of_report hreport
      obtain ⟨hid, reply, hawaited, hending⟩ := h.ending participantId callId running
      have huntracked := hending.replied hknown.controller hknown.tracked (hreply hawaited) (gone_of_endsCall gone)
      have hforgotten := h.mapped.forget huntracked (h.mapped.own hid)
      exact handOver_free (hforgotten.maps ⟨rfl, rfl⟩) hclosed settled_finish rfl
  | endRefused reason participantId callId running gone =>
      exact handOver_free (h.mapped.maps ⟨rfl, rfl⟩) hclosed settled_finish rfl

/-- **A turn of the adapter keeps the two in step.** -/
theorem RoutingInvariant.adapter_step (h : RoutingInvariant r) (hknown : Known r.controller) {action : AdapterAction}
    (horderly : r.Orderly (.adapter action sessionId)) (hanswer : action.isAnswer = false)
    (hstep : r.adapter.step config action = some a) : RoutingInvariant (r.handOver a sessionId) := by
  -- an idle adapter, or one that waits for the client or the resolver, waits for no join
  have hclosed (hrunning : ∀ join rest, r.adapter.running ≠ some (.joining join rest)) : r.controller.Closed :=
    h.closed hrunning
  have hidle (hnone : r.adapter.running = none) : r.controller.Closed := by
    apply h.closed
    intro join rest hrunning
    rw [hnone] at hrunning
    cases hrunning
  cases EventAdapter.effect_of_step hstep with
  | start => exact h.handOver_aside rfl rfl rfl rfl
  | stop =>
      unfold EventAdapter.stop
      split
      · exact h.handOver_aside rfl rfl rfl rfl
      · exact h.handOver_aside rfl rfl rfl rfl
  | connected => exact h.handOver_aside rfl rfl rfl rfl
  | disconnected => exact h.handOver_aside rfl rfl rfl rfl
  | signalled => exact h.handOver_aside rfl rfl rfl rfl
  | joinQueued => exact h.handOver_aside rfl rfl rfl rfl
  | endQueued => exact h.handOver_aside rfl rfl rfl rfl
  | stale epoch isFirstConnection rest idle head => exact h.handOver_aside rfl rfl rfl rfl
  | firstConnection rest idle head => exact h.handOver_aside rfl rfl rfl rfl
  | reconnected rest idle head =>
      refine handOver_free (h.mapped.maps ⟨rfl, rfl⟩) (hidle idle) ?_ rfl
      intro task hrunning
      obtain rfl := Option.some.inj hrunning
      trivial
  | joinBegins participant rest idle head _ admitted =>
      have hmapped : Mapped { r.adapter with waiting := rest } r.controller := h.mapped.maps ⟨rfl, rfl⟩
      exact handOver_admitted hmapped (hidle idle) rfl admitted
  | endUntracked participantId rest idle head =>
      exact handOver_free (h.mapped.maps ⟨rfl, rfl⟩) (hidle idle) settled_finish rfl
  | endBegins participantId callId rest idle head mapped =>
      have hmapped : Mapped ({ r.adapter with waiting := rest, running := some (.ending participantId callId) }.route
          (EventAdapter.endEvent config callId) false) r.controller := h.mapped.maps ⟨rfl, rfl⟩
      exact handOver_end hmapped (hidle idle) hknown.controller hknown.tracked rfl ⟨rfl, mapped⟩ rfl
  | fetched epoch current running _ ends =>
      refine handOver_sweep h.mapped (hclosed ?_) hknown rfl ends
      intro join rest hjoining
      rw [running] at hjoining
      cases hjoining
  | fetchFailed outcome epoch running =>
      refine handOver_free (h.mapped.maps ⟨rfl, rfl⟩) (hclosed ?_) settled_finish rfl
      intro join rest hjoining
      rw [running] at hjoining
      cases hjoining
  | unresolved outcome request join rest running =>
      refine handOver_free (h.mapped.maps ⟨rfl, rfl⟩) (hclosed ?_) (settled_leave rest) rfl
      intro join' rest' hjoining
      rw [running] at hjoining
      cases hjoining
  | resolved resolution did request join rest running hdid inbound =>
      have hunshared := horderly.unshared resolution sessionId request join rest rfl running (by rw [hdid]; rfl) inbound
      exact h.handOver_join hknown.controller running hunshared rfl rfl rfl rfl
  | resumed rest running _ admitted =>
      refine handOver_admitted h.mapped (hclosed ?_) rfl admitted
      intro join rest' hjoining
      rw [running] at hjoining
      cases hjoining
  | swept => cases hanswer
  | sweepFailed => cases hanswer
  | joinFailed => cases hanswer
  | joined => cases hanswer
  | joinRejected => cases hanswer
  | endFailed => cases hanswer
  | ended => cases hanswer
  | endRefused => cases hanswer

/-- What the invariant says of the participants of the tracked calls. -/
theorem RoutingInvariant.endable (h : RoutingInvariant r) : r.Endable config := by
  have hregistered : ∀ tracked ∈ r.controller.calls, ∀ entry, r.controller.entry tracked.2 = some entry →
      r.adapter.callIdByParticipantId.get entry.participantId = some tracked.1 := by
    intro tracked hmem entry hentry
    have hparticipant : r.controller.participant tracked.2 = some entry.participantId := by
      rw [Controller.participant, hentry]
      rfl
    exact (h.mapped tracked hmem entry.participantId hparticipant).1
  constructor
  · exact hregistered
  · intro tracked hmem entry hentry rest hidle hwaiting
    have hfound := hregistered tracked hmem entry hentry
    refine ⟨({ r.adapter with waiting := rest, running := some (.ending entry.participantId tracked.1) }.route
      (EventAdapter.endEvent config tracked.1) false), ?_, rfl⟩
    simp only [EventAdapter.step, hidle, hwaiting, EventAdapter.runOp, EventAdapter.onParticipantDisconnected, hfound]

end Both

namespace Routing

section Main

variable {config : AdapterConfig} {binding : TenantBinding} {r : Routing}

/-- The controller runs by itself in a run of the two, with the answers that the run allows. -/
theorem granted_reached (h : Reaches (step config) Orderly (initial binding) r) :
    Reaches Controller.step (Controller.Obeys StartGranted) (Controller.initial binding) r.controller := by
  have hevent (c : Controller) (event : Option CallEvent) (sessionId : String) :
      c.Obeys StartGranted (.handleEvent event sessionId) := by
    rintro id cell op q answer - ⟨_, _, _, _, _, heq, -⟩
    cases heq
  have hhands (t : Routing) (adapter : EventAdapter) (sessionId : String) :
      (t.handOver adapter sessionId).controller = t.controller ∨
        ∃ b, t.controller.Obeys StartGranted b ∧ t.controller.step b = some (t.handOver adapter sessionId).controller := by
    unfold handOver
    split
    · exact .inr ⟨.handleEvent _ sessionId, hevent _ _ _, rfl⟩
    · exact .inl rfl
  apply h.project controller
  intro t action u horderly hstep
  cases action with
  | adapter action sessionId =>
      simp only [step] at hstep
      split at hstep
      · cases hstep
      · obtain ⟨adapter, -, rfl⟩ := Option.map_eq_some_iff.mp hstep
        exact hhands t adapter sessionId
  | answered sessionId =>
      simp only [step] at hstep
      split at hstep
      · obtain ⟨adapter, -, rfl⟩ := Option.map_eq_some_iff.mp hstep
        exact hhands { t with awaited := none } adapter sessionId
      · cases hstep
  | controller action =>
      simp only [step] at hstep
      split at hstep
      · cases hstep
      · obtain ⟨c, hc, rfl⟩ := Option.map_eq_some_iff.mp hstep
        exact .inr ⟨action, horderly.granted action rfl, hc⟩

theorem known_reached (h : Reaches (step config) Orderly (initial binding) r) : Known r.controller where
  controller := controllerInvariant_reached (granted_reached h)
  tracked := trackedInvariant_reached (granted_reached h)
  kept := answered_reached (granted_reached h)

theorem routingInvariant_reached (h : Reaches (step config) Orderly (initial binding) r) : RoutingInvariant r := by
  apply h.invariant_reached
  · apply routingInvariant_free
    · exact fun tracked hmem => (List.not_mem_nil hmem).elim
    · intro _ _ hfound
      cases hfound
    · intro _ hrunning
      cases hrunning
  · intro t action u hrun hinv horderly hstep
    have hknown := known_reached hrun
    cases action with
    | adapter action sessionId =>
        simp only [step] at hstep
        split at hstep
        · cases hstep
        · rename_i hanswer
          obtain ⟨adapter, hadapter, rfl⟩ := Option.map_eq_some_iff.mp hstep
          exact hinv.adapter_step hknown horderly (eq_false_of_ne_true hanswer) hadapter
    | answered sessionId =>
        simp only [step] at hstep
        split at hstep
        · rename_i outcome houtcome
          obtain ⟨adapter, hadapter, rfl⟩ := Option.map_eq_some_iff.mp hstep
          exact hinv.answered_step hknown horderly houtcome hadapter
        · cases hstep
    | controller action =>
        simp only [step] at hstep
        split at hstep
        · cases hstep
        · rename_i hevent
          obtain ⟨c, hc, rfl⟩ := Option.map_eq_some_iff.mp hstep
          exact hinv.controller_step hknown (eq_false_of_ne_true hevent) hc

/-- **While the two are kept in step, every tracked call can be ended by its PBX leg.** -/
theorem endable_calls (config : AdapterConfig) (binding : TenantBinding) (r : Routing)
    (h : Reaches (step config) Orderly (initial binding) r) : r.Endable config :=
  (routingInvariant_reached h).endable

end Main

/-! ## Runs -/

/-- The first caller of a tenant is at the resolver, which knows the call. -/
def callerResolved : List RoutingAction :=
  [.adapter .start "", .adapter .connected "", .adapter .begin "",
    .adapter (.participantConnected (some EventAdapter.sampleParticipant)) "", .adapter .begin "",
    .adapter (.resolved (.ok (some ⟨some "+15550100", some "inbound"⟩))) "session"]

def controllerTurns (actions : List Action) : List RoutingAction :=
  actions.map .controller

/-- The caller's call becomes active, and the next event is the end of its leg. -/
def callAnswered : List RoutingAction :=
  callerResolved ++
    controllerTurns ([.joinAnswer 0 Dependencies.willing.respond] ++ activating 0 ++ [.joinSettle 0, .joinFinally 0]) ++
    [.answered "", .adapter (.participantDisconnected (some 53)) ""]

/-- An executable form of `Orderly`, apart from the answers to the controller. -/
def orderlyCheck (r : Routing) : RoutingAction → Bool
  | .adapter (.resolved _) _ =>
      match r.adapter.running with
      | some (.resolving _ join _) => r.controller.trackedUnder join.participantId == []
      | _ => true
  | .answered _ =>
      match r.adapter.running with
      | some (.sweeping callId participantId _ _ _) => (r.controller.trackedUnder participantId).all (· == callId)
      | _ => true
  | _ => true

theorem orderly_of_check {r : Routing} {action : RoutingAction}
    (hmeets : ∀ a, action = .controller a → a.Meets StartGranted) (h : orderlyCheck r action = true) :
    r.Orderly action := by
  constructor
  · exact fun a ha => Controller.obeys_of_meets (hmeets a ha)
  · rintro resolution sessionId request join rest rfl hrunning - -
    simpa [orderlyCheck, hrunning] using h
  · rintro sessionId callId participantId rest current epoch decision rfl hrunning - - other hother
    simp only [orderlyCheck, hrunning, List.all_eq_true, beq_iff_eq] at h
    exact h other hother

theorem willing_granted (history : CallHistory) (op : CallOp) (q : Request) :
    StartGranted history op q (Dependencies.willing.respond q) := by
  intro _
  cases q <;> rfl

theorem endable_calls_callAnswered :
    let r := final (step EventAdapter.sampleConfig) (initial sampleBinding) callAnswered
    r.Endable EventAdapter.sampleConfig ∧ r.controller.calls.length = 1 ∧
      r.adapter.waiting = [.participantDisconnected (some 53)] := by
  have hmeets : ∀ action ∈ callAnswered, ∀ a, action = .controller a → a.Meets StartGranted := by
    simp [callAnswered, callerResolved, controllerTurns, activating, Action.Meets, willing_granted]
  -- what is evaluated of the run
  obtain ⟨hchecked, hrun, hone, hwaiting⟩ :
      checked (step EventAdapter.sampleConfig) orderlyCheck (initial sampleBinding) callAnswered = true ∧
      (execute (step EventAdapter.sampleConfig) (initial sampleBinding) callAnswered).isSome = true ∧
      (final (step EventAdapter.sampleConfig) (initial sampleBinding) callAnswered).controller.calls.length = 1 ∧
      (final (step EventAdapter.sampleConfig) (initial sampleBinding) callAnswered).adapter.waiting =
        [.participantDisconnected (some 53)] := by
    decide +kernel
  refine ⟨endable_calls EventAdapter.sampleConfig sampleBinding _ ?_, hone, hwaiting⟩
  exact .of_checked (fun action hmem r => orderly_of_check (hmeets action hmem)) hchecked (execute_final hrun)

/-- The activation of the caller's call is refused, and its media bridge does not close. -/
def failedStart : List RoutingAction :=
  let respond := Dependencies.willing.respond
  let refusing := { Dependencies.willing with transition := .ok false, close := .error "timeout" }.respond
  callerResolved ++
    controllerTurns [.joinAnswer 0 respond, .opBegin 0, .opAnswer 0 respond, .opResume 0, .opAnswer 0 respond,
      .opAnswer 0 respond, .opAnswer 0 refusing, .opResume 0, .opAnswer 0 refusing, .opAnswer 0 respond, .opResume 0,
      .opAnswer 0 respond, .opResume 0, .joinSettle 0, .joinFinally 0] ++
    [.answered ""]

/-- After a `#startCall` that could not release its media, the call is tracked and not registered. -/
theorem unendable_failedStart :
    ¬ ∀ config binding r, Reaches (step config) Always (initial binding) r → r.adapter.running = none →
      r.adapter.waiting = [] → r.Endable config := by
  intro hclaim
  -- what is evaluated of the run
  obtain ⟨hrun, hidle, hempty, hcalls, hparticipant, hunregistered⟩ :
      (execute (step EventAdapter.sampleConfig) (initial sampleBinding) failedStart).isSome = true ∧
      (final (step EventAdapter.sampleConfig) (initial sampleBinding) failedStart).adapter.running = none ∧
      (final (step EventAdapter.sampleConfig) (initial sampleBinding) failedStart).adapter.waiting = [] ∧
      (final (step EventAdapter.sampleConfig) (initial sampleBinding) failedStart).controller.calls.map Prod.snd = [0] ∧
      (final (step EventAdapter.sampleConfig) (initial sampleBinding) failedStart).controller.participant 0 = some 53 ∧
      (final (step EventAdapter.sampleConfig) (initial sampleBinding)
        failedStart).adapter.callIdByParticipantId.get 53 = none := by
    decide +kernel
  have hendable := hclaim _ _ _ (.of_execute (execute_final hrun)) hidle hempty
  obtain ⟨tracked, hmem, hzero⟩ := List.mem_map.mp (hcalls ▸ List.mem_cons_self)
  obtain ⟨entry, hentry, hparticipantId⟩ := Option.map_eq_some_iff.mp hparticipant
  have hregistered := hendable.registered tracked hmem entry (hzero ▸ hentry)
  rw [hparticipantId, hunregistered] at hregistered
  cases hregistered

end Routing

end Connector
end VoiceAssistants
