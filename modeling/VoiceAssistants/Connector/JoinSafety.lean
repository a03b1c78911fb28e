import VoiceAssistants.Async.Turns
import VoiceAssistants.Connector.CallController
import VoiceAssistants.Connector.CallSafety

/-!
# Joins keep their contract

A join calls `claimCall` at most once, first of all, and otherwise only `transitionCall` from `claimed` to
`failed`.  It comes to a new entry only when `claimCall` has just reported the call as claimed
(`ClaimedBy`).  `runJoin_cases` says what running a safe join does to the controller.
-/

namespace VoiceAssistants
namespace Connector

open Async ThreeCx

/-- A mark of a join. -/
abbrev JoinMark := Mark joinInterface

theorem unstarted_newEntry (callId claimToken roomName : String) (participantId : Int) (sessionId : String) :
    Unstarted (newEntry callId claimToken roomName participantId sessionId) :=
  ⟨rfl, rfl, rfl, rfl, rfl⟩

/-- The last thing a join saw is that `claimCall` reported the call of the entry as claimed, with a valid
token and room. -/
def ClaimedBy (binding : TenantBinding) (entry : Entry) (marks : List JoinMark) : Prop :=
  ∃ earlier input reply, marks = earlier ++ [⟨(), .answered (.claimCall input) (.ok reply)⟩] ∧
    reply.claimed = true ∧ input.companyId = binding.companyId ∧ input.pbxCallId = entry.callId ∧
    boundedString reply.claimToken 128 = some entry.claimToken ∧
    (boundedString reply.livekitRoom 128).filter isRoomName = some entry.roomName

theorem not_claimedBy_append {binding : TenantBinding} {entry : Entry} {marks : List JoinMark}
    {mark : JoinMark} (h : ∀ input answer, mark.event ≠ .answered (.claimCall input) answer) :
    ¬ ClaimedBy binding entry (marks ++ [mark]) := by
  rintro ⟨earlier, input, reply, heq, -⟩
  obtain ⟨-, hlast⟩ := List.append_inj' heq rfl
  obtain rfl := List.singleton_injective hlast
  exact h input _ rfl

theorem not_claimedBy_nil {binding : TenantBinding} {entry : Entry} : ¬ ClaimedBy binding entry [] := by
  rintro ⟨earlier, input, reply, heq, -⟩
  simp at heq

/-- Marks that are no answers do not claim a call. -/
theorem ClaimedBy.of_fresh {binding : TenantBinding} {entry : Entry} {own made : List JoinMark}
    (h : ClaimedBy binding entry (own ++ made))
    (hfresh : ∀ mark ∈ made, ∀ q answer, mark.event ≠ .answered q answer) : ClaimedBy binding entry own := by
  rcases List.eq_nil_or_concat made with rfl | ⟨made', mark, rfl⟩
  · simpa using h
  · obtain ⟨earlier, input, reply, heq, -⟩ := h
    rw [List.concat_eq_append, ← List.append_assoc] at heq
    obtain ⟨-, hlast⟩ := List.append_inj' heq rfl
    have hmark : mark.event = .answered (.claimCall input) (.ok reply) := by
      rw [List.singleton_injective hlast]
    exact absurd hmark (hfresh mark (by simp) _ _)

/-- The call a join has just claimed. -/
theorem ClaimedBy.claimedCall {binding : TenantBinding} {entry : Entry} {own : List JoinMark} {q : Request}
    {respond : (q : Request) → Except String q.Answer}
    (h : ClaimedBy binding entry (own ++ [⟨(), .answered q (respond q)⟩])) :
    Controller.claimedCall respond q = [entry.callId] := by
  obtain ⟨earlier, input, reply, heq, hclaimed, -, hcall, -⟩ := h
  obtain ⟨-, hlast⟩ := List.append_inj' heq rfl
  have hmark := List.singleton_injective hlast
  injection hmark with _ hevent
  injection hevent with hq hanswer
  subst hq
  have hanswer' : respond (.claimCall input) = .ok reply := eq_of_heq hanswer
  simp [Controller.claimedCall, hanswer', hclaimed, hcall]

/-- What a join may call. -/
def JoinPermitted (binding : TenantBinding) (own : List JoinMark) : Event joinInterface → Prop
  | .called (.claimCall input) => own = [] ∧ input.companyId = binding.companyId
  | .called (.transitionCall input) =>
      input.companyId = binding.companyId ∧ input.expectedState = .claimed ∧ input.newState = .failed
  | .called _ => False
  | .emitted output => output ≠ .forget
  | .answered _ _ => True

/-- The contract of a join. -/
def joinContract (binding : TenantBinding) : Contract joinInterface where
  rely := fun _ _ => True
  writes := fun _ _ _ => True
  events := fun own _ event => JoinPermitted binding own event
  suspends := fun own _ => ∀ entry, ¬ ClaimedBy binding entry own

/-- What a join comes to. -/
def joinPost (binding : TenantBinding) : Post joinInterface JoinOutcome := fun result _ own =>
  ∀ entry, result = .ok (.admitted entry) → Unstarted entry ∧ ClaimedBy binding entry own

variable {binding : TenantBinding}

theorem safe_joinDecision (reason : String) (state : Unit) (own : List JoinMark) :
    (joinDecision reason).Safe (joinContract binding) (joinPost binding) state own := by
  refine (Program.safe_output_bind _ _ _ _).mpr ⟨by simp [joinContract, JoinPermitted], ?_⟩
  intro entry h
  cases h

theorem safe_bestEffortFailure {post : Post joinInterface Unit} {callId reason : String}
    {claimToken : Option String} {own : List JoinMark} (hown : ∀ entry, ¬ ClaimedBy binding entry own)
    (hpost : ∀ own', (∀ entry, ¬ ClaimedBy binding entry own') → post (.ok ()) () own') :
    (bestEffortFailure binding callId claimToken reason).Safe (joinContract binding) post () own := by
  unfold bestEffortFailure
  cases claimToken with
  | none => exact hpost own hown
  | some token =>
      refine (Program.safe_attempt_request_bind _ _ _).mpr
        ⟨⟨rfl, rfl, rfl⟩, fun _ => not_claimedBy_append (by simp), ?_⟩
      rintro state - (error | answer)
      · exact ⟨by simp [joinContract, JoinPermitted], hpost _ fun _ => not_claimedBy_append (by simp)⟩
      · refine hpost _ fun _ => not_claimedBy_append ?_
        intro input answer' h
        cases h

theorem safe_claimJoin {callId eventId did eventType sessionId : String} {participantId : Int} :
    (claimJoin binding callId eventId did eventType sessionId participantId).Safe (joinContract binding)
      (joinPost binding) () [] := by
  unfold claimJoin
  refine (Program.safe_attempt_request_bind _ _ _).mpr
    ⟨⟨rfl, rfl⟩, fun _ => not_claimedBy_append (by simp), ?_⟩
  rintro state - (error | claim)
  · exact safe_joinDecision _ _ _
  · have hfailed : ∀ own, (∀ entry, ¬ ClaimedBy binding entry own) →
        ((bestEffortFailure binding callId (boundedString claim.claimToken 128)
          "claimed_call_invalid").awaited >>= fun _ => joinDecision "claimed_call_invalid").Safe
          (joinContract binding) (joinPost binding) () own := by
      intro own hown
      refine (Program.safe_bind _ _ _ _).mpr ((Program.safe_awaited _ _ _).mpr ?_)
      exact safe_bestEffortFailure hown fun own' hown' => ⟨hown', fun state _ => safe_joinDecision _ _ _⟩
    dsimp only
    split
    · rename_i hclaimed
      split
      · rename_i token roomName htoken hroom
        intro entry hentry
        obtain rfl : newEntry callId token roomName participantId sessionId = entry := by
          injection hentry with hadmitted
          injection hadmitted
        exact ⟨unstarted_newEntry _ _ _ _ _, _, _, claim, rfl, hclaimed, rfl, rfl, htoken, hroom⟩
      · -- the claim is not usable: there is no entry for it
        rename_i hinvalid
        refine hfailed _ ?_
        rintro entry ⟨earlier, input, reply, heq, -, -, -, htoken, hroom⟩
        obtain ⟨-, hlast⟩ := List.append_inj' heq rfl
        cases hlast
        exact hinvalid _ _ htoken hroom
    · split
      · exact safe_joinDecision _ _ _
      · exact safe_joinDecision _ _ _

/-- `#handleJoinEvent` keeps its contract. -/
theorem safe_handleJoinEvent (event : CallEvent) (sessionId : String) :
    (handleJoinEvent binding event sessionId).Safe (joinContract binding) (joinPost binding) () [] := by
  unfold handleJoinEvent
  split
  · exact safe_joinDecision _ _ _
  · split
    · split
      · exact safe_joinDecision _ _ _
      · split
        · exact safe_joinDecision _ _ _
        · split
          · exact safe_joinDecision _ _ _
          · exact safe_claimJoin
    · exact safe_joinDecision _ _ _

/-- What a join in progress still owes. -/
def JoinPhase.Good (binding : TenantBinding) (marks : List JoinMark) : JoinPhase → Prop
  | .claiming residual => residual.Resting (joinContract binding) (joinPost binding) () marks ∧
      (∀ result, residual ≠ .done result) ∧ residual.Called marks
  | _ => True

/-- The calls and outputs of a join satisfy its contract, and so does what is left of it. -/
structure JoinTask.Good (binding : TenantBinding) (task : JoinTask) : Prop where
  kept : Program.Kept (joinContract binding) [] task.marks
  phase : task.phase.Good binding task.marks

namespace Controller

/-- Running a join: it is suspended, settled, or its entry is admitted. -/
theorem runJoin_cases (c : Controller) (join : Nat) {own : List JoinMark} {p : JoinProgram JoinOutcome}
    (hkept : Program.Kept (joinContract binding) [] own)
    (hsafe : p.Safe (joinContract binding) (joinPost binding) () own) :
    (∃ task, task.Good binding ∧ (∀ cell, task.phase ≠ .starting cell) ∧
      c.runJoin join own p = { c with joins := Function.update c.joins join (some task) }) ∨
    (∃ marks entry, Program.Kept (joinContract binding) [] (own ++ marks) ∧
      (∀ mark ∈ marks, ∀ q answer, mark.event ≠ .answered q answer) ∧ Unstarted entry ∧
      ClaimedBy binding entry (own ++ marks) ∧ c.runJoin join own p = c.track join (own ++ marks) entry) := by
  obtain ⟨hmarks, -, hresting⟩ := hsafe.advance
  have hall : Program.Kept (joinContract binding) [] (own ++ (p.advance ()).marks) :=
    Program.kept_append hkept (by simpa using hmarks)
  have hcalled := Program.advance_called p () own
  unfold runJoin
  cases hres : (p.advance ()).residual with
  | done result =>
      rw [hres] at hresting
      rcases result with error | result | entry
      · exact .inl ⟨⟨.settled (.error error), _⟩, ⟨hall, trivial⟩, by simp, by simp [hres]⟩
      · exact .inl ⟨⟨.settled (.ok result), _⟩, ⟨hall, trivial⟩, by simp, by simp [hres]⟩
      · obtain ⟨hunstarted, hclaimed⟩ := hresting entry rfl
        exact .inr ⟨_, entry, hall, advance_marks_not_answered p (), hunstarted, hclaimed, by simp [hres]⟩
  | call request next =>
      rw [hres] at hresting hcalled
      exact .inl ⟨⟨.claiming (.call request next), _⟩, ⟨hall, hresting, by simp, hcalled⟩, by simp, by simp [hres]⟩
  | pause next =>
      rw [hres] at hresting hcalled
      exact .inl ⟨⟨.claiming (.pause next), _⟩, ⟨hall, hresting, by simp, hcalled⟩, by simp, by simp [hres]⟩
  | read next =>
      rw [hres] at hresting
      exact hresting.elim
  | write state next =>
      rw [hres] at hresting
      exact hresting.elim
  | emit output next =>
      rw [hres] at hresting
      exact hresting.elim

end Controller

end Connector
end VoiceAssistants
