import VoiceAssistants.Connector.CallForgetting
import VoiceAssistants.Connector.EventRouting
import VoiceAssistants.Connector.Shutdown

/-!
# The join of a call

`Controller.Turn` says what a turn of a controller does to its joins and to the map of calls, apart from the calls
of `handleEvent`: at most one join moves, and only a join that waits for its claim can bring a call.

`Controller.Serving` follows the join that the adapter waits for: until the entry exists the call is not tracked,
and when the promise has settled with anything but `call_active` it is not tracked either.
-/

namespace VoiceAssistants
namespace Connector

open Async ThreeCx

/-- Joins, free in everything. -/
def freeJoins : Contract joinInterface where
  rely := fun _ _ => True
  writes := fun _ _ _ => True
  events := fun _ _ _ => True
  suspends := fun _ _ => True

/-- The entry of a join has the call id and the participant of its event. -/
def Admits (callId : String) (participantId : Int) : Post joinInterface JoinOutcome := fun result _ _ =>
  ∀ entry, result = .ok (.admitted entry) → entry.callId = callId ∧ entry.participantId = participantId

section Programs

variable {binding : TenantBinding} {callId : String} {participantId : Int} {own : List JoinMark}

theorem admits_joinDecision (reason : String) :
    (joinDecision reason).Safe freeJoins (Admits callId participantId) () own := by
  refine (Program.safe_output_bind _ _ _ _).mpr ⟨trivial, ?_⟩
  intro entry h
  cases h

theorem admits_claimJoin {eventId did eventType sessionId : String} :
    (claimJoin binding callId eventId did eventType sessionId participantId).Safe freeJoins
      (Admits callId participantId) () own := by
  have hfailed (claimToken : Option String) (own : List JoinMark) :
      ((bestEffortFailure binding callId claimToken "claimed_call_invalid").awaited >>=
        fun _ => joinDecision "claimed_call_invalid").Safe freeJoins (Admits callId participantId) () own := by
    refine (Program.safe_bind _ _ _ _).mpr ((Program.safe_awaited _ _ _).mpr ?_)
    unfold bestEffortFailure
    cases claimToken with
    | none => exact ⟨trivial, fun state _ => admits_joinDecision _⟩
    | some token =>
        refine (Program.safe_attempt_request_bind _ _ _).mpr ⟨trivial, trivial, ?_⟩
        rintro state - (error | answer)
        · exact ⟨trivial, trivial, fun state _ => admits_joinDecision _⟩
        · exact ⟨trivial, fun state _ => admits_joinDecision _⟩
  unfold claimJoin
  refine (Program.safe_attempt_request_bind _ _ _).mpr ⟨trivial, trivial, ?_⟩
  rintro state - (error | claim)
  · exact admits_joinDecision _
  · dsimp only
    split
    · split
      · intro entry hentry
        obtain rfl := JoinOutcome.admitted.inj (Except.ok.inj hentry)
        exact ⟨rfl, rfl⟩
      · exact hfailed _ _
    · split
      · exact admits_joinDecision _
      · exact admits_joinDecision _

/-- `#handleJoinEvent`. -/
theorem admits_handleJoinEvent {event : CallEvent} (hcall : event.callId = some callId)
    (hparticipant : event.participantId = some participantId) (sessionId : String) :
    (handleJoinEvent binding event sessionId).Safe freeJoins (Admits callId participantId) () own := by
  unfold handleJoinEvent
  split
  · exact admits_joinDecision _
  · split
    · rename_i callId' eventId did participantId' hcallId' _ _ hparticipant'
      rw [hcall] at hcallId'
      obtain rfl := Option.some.inj (boundedString_eq_some hcallId')
      rw [hparticipant] at hparticipant'
      obtain rfl := Option.some.inj hparticipant'
      split
      · exact admits_joinDecision _
      · split
        · exact admits_joinDecision _
        · split
          · exact admits_joinDecision _
          · exact admits_claimJoin
    · exact admits_joinDecision _

end Programs

namespace Controller

/-- Running a join brings no call, or its entry. -/
inductive Ran (c : Controller) (join : Nat) (callId : String) (participantId : Int) : Controller → Prop
  | suspended (residual : JoinProgram JoinOutcome) (marks : List JoinMark)
      (resting : residual.Resting freeJoins (Admits callId participantId) () marks) :
      Ran c join callId participantId
        { c with joins := Function.update c.joins join (some ⟨.claiming residual, marks⟩) }
  | settled (result : Except String Decision) (marks : List JoinMark) :
      Ran c join callId participantId
        { c with joins := Function.update c.joins join (some ⟨.settled result, marks⟩) }
  | admitted (marks : List JoinMark) (entry : Entry) (call : entry.callId = callId)
      (participant : entry.participantId = participantId) :
      Ran c join callId participantId (c.track join marks entry)

theorem ran_runJoin {callId : String} {participantId : Int} (c : Controller) (join : Nat) {own : List JoinMark}
    {p : JoinProgram JoinOutcome} (hsafe : p.Safe freeJoins (Admits callId participantId) () own) :
    Ran c join callId participantId (c.runJoin join own p) := by
  obtain ⟨-, -, hresting⟩ := hsafe.advance
  unfold runJoin
  cases hres : (p.advance ()).residual with
  | done result =>
      rw [hres] at hresting
      rcases result with error | result | entry
      · simpa [hres] using Ran.settled (c := c) (.error error) (own ++ (p.advance ()).marks)
      · simpa [hres] using Ran.settled (c := c) (.ok result) (own ++ (p.advance ()).marks)
      · obtain ⟨hcall, hparticipant⟩ := hresting entry rfl
        simpa [hres] using Ran.admitted (c := c) (own ++ (p.advance ()).marks) entry hcall hparticipant
  | call request next =>
      rw [hres] at hresting
      simpa [hres] using Ran.suspended (c := c) _ _ hresting
  | pause next =>
      rw [hres] at hresting
      simpa [hres] using Ran.suspended (c := c) _ _ hresting
  | read next =>
      rw [hres] at hresting
      exact hresting.elim
  | write state next =>
      rw [hres] at hresting
      exact hresting.elim
  | emit output next =>
      rw [hres] at hresting
      exact hresting.elim

/-- The call is not in the map. -/
def Untracked (c : Controller) (callId : String) : Prop :=
  ∀ id, (callId, id) ∉ c.calls

/-- What a turn of a controller does to its joins and its map, when the turn is no call of `handleEvent`. -/
inductive Turn (c : Controller) : Controller → Prop
  | calm (c' : Controller) (joins : c'.joins = c.joins) (calls : ∀ tracked ∈ c'.calls, tracked ∈ c.calls) : Turn c c'
  | ran (join : Nat) (residual p : JoinProgram JoinOutcome) (marks own : List JoinMark) (claims : List String)
      (found : c.joins join = some ⟨.claiming residual, marks⟩)
      (safe : ∀ post, residual.Resting freeJoins post () marks → p.Safe freeJoins post () own) :
      Turn c ({ c with claims := claims }.runJoin join own p)
  | started (join id : Nat) (marks : List JoinMark) (result : Except String Decision)
      (found : c.joins join = some ⟨.starting id, marks⟩) (outcome : c.outcome id 0 = some result) :
      Turn c { c with joins := Function.update c.joins join (some ⟨.settled result, marks⟩) }
  | finished (c' : Controller) (join : Nat) (marks : List JoinMark) (result : Except String Decision)
      (found : c.joins join = some ⟨.settled result, marks⟩)
      (joins : c'.joins = Function.update c.joins join (some ⟨.finished result, marks⟩)) (calls : c'.calls = c.calls) :
      Turn c c'

section Turns

variable {c c' : Controller} {a : Action}

theorem turn_queue (id : Nat) (op : CallOp) : Turn c (c.queue id op).1 := by
  unfold queue
  cases hcell : c.cells id with
  | none => exact .calm _ rfl fun _ h => h
  | some cell =>
      simp only [serialize, hcell]
      exact .calm _ rfl fun _ h => h

theorem turn_cellStep {id : Nat} {f : CallMonitor → Option CallMonitor} (h : c.cellStep id f = some c') :
    Turn c c' := by
  obtain ⟨cell, monitor, -, -, rfl⟩ := cellStep_eq_some h
  obtain ⟨calls, hrun, hcalls⟩ := runCell_eq c id cell monitor
  rw [hrun]
  apply Turn.calm
  · rfl
  · intro tracked hmem
    rcases hcalls with heq | ⟨-, heq⟩
    · exact heq ▸ hmem
    · have hmem' : tracked ∈ deleteCall c.calls monitor.state.callId := heq ▸ hmem
      exact (List.mem_filter.mp hmem').1

theorem turn_drainNext {task : Nat} {tracked : List Nat} {drained : List (Nat × Nat × Decision)} {rest : List Nat} :
    Turn c (c.drainNext task tracked drained rest) := by
  cases rest with
  | nil => exact .calm _ rfl fun _ h => h
  | cons id rest =>
      cases hcell : c.cells id with
      | none =>
          simp only [drainNext, hcell]
          exact .calm _ rfl fun _ h => h
      | some cell =>
          simp only [drainNext, serialize, hcell]
          exact .calm _ rfl fun _ h => h

theorem turn_of_step (hevent : a.isEvent = false) (hstep : c.step a = some c') : Turn c c' := by
  cases a with
  | handleEvent event sessionId => cases hevent
  | handleMediaFailure sessionId reason =>
      obtain rfl := Option.some.inj hstep
      unfold mediaFailureEvent
      split
      · split
        · exact .calm _ rfl fun _ h => h
        · split
          · exact turn_queue _ _
          · exact .calm _ rfl fun _ h => h
      · exact .calm _ rfl fun _ h => h
  | handleCallHangup sessionId reason =>
      obtain rfl := Option.some.inj hstep
      unfold callHangupEvent
      split
      · split
        · exact turn_queue _ _
        · exact .calm _ rfl fun _ h => h
      · exact .calm _ rfl fun _ h => h
  | shutdown =>
      obtain rfl := Option.some.inj hstep
      exact .calm _ rfl fun _ h => h
  | joinAnswer join respond =>
      have h : c.joinAnswer join respond = some c' := hstep
      unfold joinAnswer at h
      split at h
      · rename_i q next marks hfound
        obtain rfl := Option.some.inj h
        exact .ran join _ _ _ _ _ hfound fun post hresting => hresting.2 () trivial (respond q)
      · cases h
  | joinResume join =>
      have h : c.joinResume join = some c' := hstep
      unfold joinResume at h
      split at h
      · rename_i next marks hfound
        obtain rfl := Option.some.inj h
        exact .ran join _ _ _ _ c.claims hfound fun post hresting => hresting.2 () trivial
      · cases h
  | joinSettle join =>
      have h : c.joinSettle join = some c' := hstep
      unfold joinSettle at h
      split at h
      · rename_i id marks hfound
        split at h
        · rename_i result houtcome
          obtain rfl := Option.some.inj h
          exact .started join id marks result hfound houtcome
        · cases h
      · cases h
  | joinFinally join =>
      have h : c.joinFinally join = some c' := hstep
      unfold joinFinally at h
      split at h
      · rename_i result marks hfound
        obtain rfl := Option.some.inj h
        exact .finished _ join marks result hfound rfl rfl
      · cases h
  | opBegin id => exact turn_cellStep hstep
  | opAnswer id respond => exact turn_cellStep hstep
  | opResume id => exact turn_cellStep hstep
  | timerFires id =>
      have h : c.timerFires id = some c' := hstep
      unfold timerFires at h
      split at h
      · split at h
        · obtain rfl := Option.some.inj h
          exact .calm _ rfl fun _ h => h
        · cases h
      · cases h
  | renewalSettled id =>
      have h : c.renewalSettled id = some c' := hstep
      unfold renewalSettled at h
      split at h
      · split at h
        · obtain rfl := Option.some.inj h
          exact .calm _ rfl fun _ h => h
        · cases h
      · cases h
  | shutdownStep task =>
      have h : c.shutdownStep task = some c' := hstep
      unfold shutdownStep at h
      split at h
      · split at h
        · obtain rfl := Option.some.inj h
          exact turn_drainNext
        · cases h
      · split at h
        · obtain rfl := Option.some.inj h
          exact turn_drainNext
        · obtain rfl := Option.some.inj h
          exact .calm _ rfl fun _ h => h
        · cases h
      · cases h

end Turns

/-- The promise of the join that serves a call: the call is not tracked before its entry exists, it is tracked under
no other entry, and it is not tracked any more when the promise settles without `call_active`. -/
inductive Serving (c : Controller) (join : Nat) (callId : String) (participantId : Int) : Prop
  | claiming (residual : JoinProgram JoinOutcome) (marks : List JoinMark)
      (found : c.joins join = some ⟨.claiming residual, marks⟩)
      (resting : residual.Resting freeJoins (Admits callId participantId) () marks) (untracked : c.Untracked callId)
  | starting (id : Nat) (marks : List JoinMark) (found : c.joins join = some ⟨.starting id, marks⟩)
      (unique : ∀ other, (callId, other) ∈ c.calls → other = id)
  | served (result : Except String Decision) (marks : List JoinMark)
      (found : c.joins join = some ⟨.settled result, marks⟩ ∨ c.joins join = some ⟨.finished result, marks⟩)
      (untracked : ∀ decision, result = .ok decision → decision.reason ≠ "call_active" → c.Untracked callId)

section Serves

variable {c c' : Controller} {join : Nat} {callId : String} {participantId : Int}

/-- A map that only lost calls does not track a call that it did not track. -/
theorem Untracked.mono (h : c.Untracked callId) (hcalls : ∀ tracked ∈ c'.calls, tracked ∈ c.calls) :
    c'.Untracked callId :=
  fun id hmem => h id (hcalls _ hmem)

/-- The join that has just run serves its call. -/
theorem Ran.serving (h : Ran c join callId participantId c') (huntracked : c.Untracked callId) :
    c'.Serving join callId participantId := by
  cases h with
  | suspended residual marks resting => exact .claiming residual marks (Function.update_self ..) resting huntracked
  | settled result marks => exact .served result marks (.inl (Function.update_self ..)) fun _ _ _ => huntracked
  | admitted marks entry call participant =>
      apply Serving.starting c.cellCount marks (Function.update_self ..)
      intro other hmem
      rcases mem_setCall hmem with heq | hold
      · exact congrArg Prod.snd heq
      · exact absurd hold (huntracked other)

/-- The other joins stay as they are. -/
theorem Ran.joins_ne (h : Ran c join callId participantId c') {other : Nat} (hne : other ≠ join) :
    c'.joins other = c.joins other := by
  cases h with
  | suspended => exact Function.update_of_ne hne ..
  | settled => exact Function.update_of_ne hne ..
  | admitted => exact Function.update_of_ne hne ..

/-- A new call is that of the join, with its participant. -/
theorem Ran.calls (h : Ran c join callId participantId c') :
    ∀ tracked ∈ c'.calls, tracked ∈ c.calls ∨
      tracked = (callId, c.cellCount) ∧ (c'.entry c.cellCount).map (·.participantId) = some participantId := by
  cases h with
  | suspended => exact fun tracked hmem => .inl hmem
  | settled => exact fun tracked hmem => .inl hmem
  | admitted marks entry call participant =>
      intro tracked hmem
      rcases mem_setCall hmem with heq | hold
      · right
        constructor
        · rw [heq, call]
        · have hnew : (c.track join marks entry).entry c.cellCount = some entry := by
            simp [Controller.entry, track, Monitor.opened]
          rw [hnew, Option.map_some, participant]
      · exact .inl hold

/-- **A turn of the controller keeps a join serving its call.** -/
theorem Serving.turn (h : c.Serving join callId participantId) (hinv : ControllerInvariant c)
    (htracked : TrackedInvariant c) (hkept : ∀ id cell, c.cells id = some cell → AnswersKept StartGranted cell)
    (honly : ∀ other task, c.joins other = some task → task.phase.Claiming → other = join) (hturn : Turn c c') :
    c'.Serving join callId participantId := by
  cases hturn with
  | calm _ joins calls =>
      cases h with
      | claiming residual marks found resting untracked =>
          exact .claiming residual marks (joins ▸ found) resting (untracked.mono calls)
      | starting id marks found unique =>
          exact .starting id marks (joins ▸ found) fun other hmem => unique other (calls _ hmem)
      | served result marks found untracked =>
          exact .served result marks (joins ▸ found) fun d hresult hreason => (untracked d hresult hreason).mono calls
  | ran other residual p marks own claims found safe =>
      obtain rfl := honly other _ found trivial
      cases h with
      | claiming residual' marks' found' resting untracked =>
          rw [found] at found'
          obtain ⟨hphase, rfl⟩ := JoinTask.mk.inj (Option.some.inj found')
          obtain rfl := JoinPhase.claiming.inj hphase
          exact (ran_runJoin { c with claims := claims } other (safe _ resting)).serving untracked
      | starting id marks' found' unique =>
          rw [found] at found'
          cases found'
      | served result marks' found' untracked =>
          rw [found] at found'
          rcases found' with heq | heq <;> cases heq
  | started other id marks result found outcome =>
      by_cases heq : join = other
      · subst heq
        cases h with
        | claiming residual marks' found' =>
            rw [found] at found'
            cases found'
        | starting id' marks' found' unique =>
            rw [found] at found'
            obtain ⟨hphase, rfl⟩ := JoinTask.mk.inj (Option.some.inj found')
            obtain rfl := JoinPhase.starting.inj hphase
            apply Serving.served result marks (.inl (Function.update_self ..))
            intro decision hresult hreason
            have hcell : ∃ cell, c.cells id = some cell := by
              unfold Controller.outcome at outcome
              obtain ⟨cell, hcell, -⟩ := Option.bind_eq_some_iff.mp outcome
              exact ⟨cell, hcell⟩
            obtain ⟨cell, hcell⟩ := hcell
            obtain ⟨decision', hresult', hcases⟩ := htracked.started hinv hkept hcell outcome
            rw [hresult] at hresult'
            obtain rfl := Except.ok.inj hresult'
            rcases hcases with hactive | hgone
            · exact absurd hactive hreason
            · intro other hmem
              obtain rfl := unique other hmem
              exact hgone callId hmem
        | served result' marks' found' =>
            rw [found] at found'
            rcases found' with heq | heq <;> cases heq
      · have hsame : Function.update c.joins other (some ⟨.settled result, marks⟩) join = c.joins join :=
          Function.update_of_ne heq ..
        cases h with
        | claiming residual marks' found' resting untracked =>
            exact .claiming residual marks' (hsame.trans found') resting untracked
        | starting id' marks' found' unique => exact .starting id' marks' (hsame.trans found') unique
        | served result' marks' found' untracked => exact .served result' marks' (found'.imp hsame.trans hsame.trans) untracked
  | finished _ other marks result found joins calls =>
      by_cases heq : join = other
      · subst heq
        cases h with
        | claiming residual marks' found' =>
            rw [found] at found'
            cases found'
        | starting id' marks' found' =>
            rw [found] at found'
            cases found'
        | served result' marks' found' untracked =>
            have hresult : result = result' := by
              rw [found] at found'
              rcases found' with heq | heq
              · exact JoinPhase.settled.inj (JoinTask.mk.inj (Option.some.inj heq)).1
              · cases heq
            subst hresult
            apply Serving.served result marks (.inr (by rw [joins, Function.update_self]))
            exact fun d hd hreason => (untracked d hd hreason).mono fun _ hmem => calls ▸ hmem
      · have hsame : c'.joins join = c.joins join := by rw [joins, Function.update_of_ne heq]
        have hless : ∀ tracked ∈ c'.calls, tracked ∈ c.calls := fun _ hmem => calls ▸ hmem
        cases h with
        | claiming residual marks' found' resting untracked =>
            exact .claiming residual marks' (hsame.trans found') resting (untracked.mono hless)
        | starting id' marks' found' unique =>
            exact .starting id' marks' (hsame.trans found') fun other hmem => unique other (hless _ hmem)
        | served result' marks' found' untracked =>
            exact .served result' marks' (found'.imp hsame.trans hsame.trans) fun d hd hreason => (untracked d hd hreason).mono hless

end Serves

end Controller

end Connector
end VoiceAssistants
