import VoiceAssistants.Connector.ControllerInvariants

/-!
# No caller is abandoned

A call that the controller ends by itself (media failure, agent hangup, start failure, shutdown, lease loss)
may go to a terminal state and leave the map only after `handlePbxFallback` returned `true` for it: stopping the
local media does not end the caller's call.

`handleCallHangup` computes whether the fallback completed and does not look at it (`abandoned_hangup`).
`callers_handed_over` says that nothing else abandons a caller: in a run in which no hangup gets an incomplete
fallback for a call not handed over before, every call is.
-/

namespace VoiceAssistants
namespace Connector

open Async ThreeCx

/-- Every request of a terminal state and every removal from the map, other than by the PBX's own end event,
comes after a complete fallback.  A removal may also find the call ended by the PBX, or lost to another worker
before anything was dispatched. -/
def Controller.HandedOver (c : Controller) : Prop :=
  ∀ id cell before op own mark rest, c.cells id = some cell →
    cell.monitor.Made before op (own ++ mark :: rest) → op ≠ .pbxEnd →
    (∀ input, mark.event = .called (.transitionCall input) → input.newState.Terminal →
      0 < tally .fallbackTrue (upTo before op own)) ∧
    (mark.event = .emitted .forget → 0 < tally .fallbackTrue (upTo before op own) ∨
      PbxEnded (upTo before op own) ∨
      0 < count .connectingRefused own ∧ tally .dispatchCalls (upTo before op own) = 0)

/-- A hangup gets a complete fallback, or the call had one before. -/
def HangupConfirmed : AnswerCondition
  | history, .hangup _, .handlePbxFallback _, answer => answer = .ok true ∨ 0 < tally .fallbackTrue history
  | _, _, _, _ => True

section Handover

variable {binding : TenantBinding} {c : Controller} {cell : Cell}

/-- An incomplete fallback of a hangup comes after a complete one. -/
theorem HangupUnconfirmed.handedOver {earlier more : CallHistory} (hkept : AnswersKept HangupConfirmed cell)
    (hhistory : cell.monitor.history = earlier ++ more) (h : HangupUnconfirmed earlier) :
    0 < tally .fallbackTrue earlier := by
  obtain ⟨⟨op, mark⟩, hmem, hhangup, htally⟩ := h
  obtain ⟨first, second, rfl⟩ := List.append_of_mem hmem
  rw [List.append_assoc] at hhistory
  have hanswer := hkept first op mark _ hhistory
  refine tally_mono _ ?_
  cases hevent : mark.event with
  | called q => cases q <;> simp [tallies, hevent, callTallies] at htally
  | emitted output => cases output <;> simp [tallies, hevent] at htally
  | answered q answer =>
      have hP := hanswer q answer hevent
      rw [tallies, hevent] at htally
      cases op with
      | hangup reason =>
          cases q with
          | handlePbxFallback input =>
              rcases hP with htrue | hbefore
              · rw [htrue] at htally
                simp [answerTallies] at htally
              · exact hbefore
          | transitionCall input => rcases answer with _ | _ | _ <;> simp [answerTallies, transitionTallies] at htally
          | _ => rcases answer with _ | _ | _ <;> simp [answerTallies] at htally
      | _ => exact hhangup.elim

/-- **No caller is abandoned**, in a run in which no hangup goes on without a complete fallback. -/
theorem callers_handed_over (binding : TenantBinding) (c : Controller)
    (h : Reaches Controller.step (Controller.Obeys HangupConfirmed) (Controller.initial binding) c) :
    c.HandedOver := by
  intro id cell before op own mark rest hcell hmade hop
  obtain ⟨start, hinv⟩ := (controllerInvariant_reached h).cells id cell hcell
  have hkept := answered_reached h id cell hcell
  obtain ⟨more, hhistory⟩ := hmade.history
  have hsplit : cell.monitor.history = upTo before op own ++ ((mark :: rest).map (Prod.mk op) ++ more) := by
    rw [hhistory, upTo]
    simp
  refine ⟨?_, ?_⟩
  · intro input hevent hterminal
    obtain ⟨-, hpermitted⟩ := hinv.good.made_event hmade (by simp [hevent])
    rw [hevent] at hpermitted
    rcases hpermitted.2.2 hterminal hop with htrue | ⟨hhangup, hfailed⟩
    · rw [tally_upTo]
      omega
    · obtain ⟨failed, hmem, htally⟩ := exists_of_count_pos hfailed
      refine HangupUnconfirmed.handedOver hkept hsplit ⟨(op, failed), ?_, hhangup, htally⟩
      simp [upTo, hmem]
  · intro hevent
    obtain ⟨hfacts, hpermitted⟩ := hinv.good.made_event hmade (by simp [hevent])
    rw [hevent] at hpermitted
    rcases hpermitted.2.2 with hterminal | ⟨-, hrefused, hnone⟩
    · rcases hfacts.progress.confirmed hterminal with htrue | hended | hhangup
      · exact .inl htrue
      · exact .inr (.inl hended)
      · exact .inl (hhangup.handedOver hkept hsplit)
    · exact .inr (.inr ⟨hrefused, hnone⟩)

end Handover

theorem hangupConfirmed_willing (history : CallHistory) (op : CallOp) (q : Request) :
    HangupConfirmed history op q (Dependencies.willing.respond q) := by
  cases op with
  | hangup reason =>
      cases q with
      | handlePbxFallback input => exact .inl rfl
      | _ => trivial
  | _ => trivial

/-- An agent hangs up an active call, the caller is dropped and the call is forgotten. -/
def confirmedHangup : List Action :=
  let respond := Dependencies.willing.respond
  admitting 0 "call" "session" ++ activating 0 ++
    [.handleCallHangup (some "session") "agent_completed", .opBegin 0, .opAnswer 0 respond, .opResume 0,
      .opAnswer 0 respond, .opAnswer 0 respond, .opResume 0, .opAnswer 0 respond, .opAnswer 0 respond,
      .opResume 0]

theorem callers_handed_over_hangup :
    (Controller.after confirmedHangup).calls = [] ∧ (Controller.after confirmedHangup).HandedOver := by
  refine ⟨by decide +kernel, callers_handed_over sampleBinding _ ?_⟩
  refine Controller.reaches_meeting ?_ (by decide +kernel)
  simp [confirmedHangup, admitting, activating, Action.Meets, hangupConfirmed_willing]

/-- An agent hangs up an active call and the PBX does not drop the caller. -/
def abandonedHangup : List Action :=
  let respond := Dependencies.willing.respond
  let incomplete := { Dependencies.willing with fallback := .ok false }.respond
  admitting 0 "call" "session" ++ activating 0 ++
    [.handleCallHangup (some "session") "agent_completed", .opBegin 0, .opAnswer 0 respond, .opResume 0,
      .opAnswer 0 respond, .opAnswer 0 respond, .opResume 0, .opAnswer 0 incomplete, .opAnswer 0 respond,
      .opResume 0]

/-- A call that is forgotten although nobody confirmed that the caller was handed over or had left. -/
def abandonedForget : CallHistory × CallOp × List CallMark × CallMark → Bool
  | (before, op, own, ⟨_, .emitted .forget⟩) =>
      decide (op ≠ .pbxEnd) && tally .fallbackTrue (upTo before op own) == 0 &&
        (upTo before op own).all (fun entry => entry.1 ≠ .pbxEnd) && count .connectingRefused own == 0
  | _ => false

/-- A run in which a call is ended and forgotten while its caller is still connected. -/
theorem abandoned_hangup :
    ¬ ∀ c, Reaches Controller.step Always (Controller.initial sampleBinding) c → c.HandedOver := by
  intro hclaim
  have hrun : (execute Controller.step (Controller.initial sampleBinding) abandonedHangup).isSome = true := by
    decide +kernel
  have hforgot : ((Controller.after abandonedHangup).settledMark 0 1 10).any abandonedForget = true := by
    decide +kernel
  obtain ⟨cell, before, op, own, mark, rest, hcell, hmade, hcheck⟩ := settledMark_made hforgot
  unfold abandonedForget at hcheck
  split at hcheck
  · rename_i before' op' own' state hplace
    simp only [Prod.mk.injEq] at hplace
    obtain ⟨rfl, rfl, rfl, rfl⟩ := hplace
    simp only [Bool.and_eq_true, decide_eq_true_eq, beq_iff_eq, List.all_eq_true] at hcheck
    obtain ⟨⟨⟨hop, hnone⟩, hops⟩, hgranted⟩ := hcheck
    rcases (hclaim _ (Controller.reaches_after hrun) 0 cell before op own _ rest hcell hmade hop).2 rfl
      with htrue | ⟨input, state, -, hmem⟩ | ⟨hrefused, -⟩
    · omega
    · exact hops _ hmem rfl
    · omega
  · cases hcheck

end Connector
end VoiceAssistants
