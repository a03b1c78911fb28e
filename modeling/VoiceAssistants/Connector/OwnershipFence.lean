import VoiceAssistants.Connector.ControllerInvariants

/-!
# Who may touch the PBX participant

`handlePbxFallback` transfers or disconnects the caller.  The controller is meant to call it only after its own
move of the call to `ending` was granted (or, while shutting down, for a call that is still `claimed`), so that
a worker that lost the call never touches another worker's caller.

Every path but one keeps this fence.  `#renewLease` goes on to the fallback also when its move to `ending` was
refused (`unfenced_renewal`); `fenced_iff` says that this is the only way the fence is crossed.
-/

namespace VoiceAssistants
namespace Connector

open Async ThreeCx

/-- The call may be made after `earlier` by the operation `op`: the move to `ending` was granted, or the entry
is drained while it is still claimed. -/
def MayFallBack (earlier : CallHistory) (op : CallOp) (entry : Entry) : Prop :=
  0 < tally .endingGranted earlier ∨ op = .drain ∧ entry.state = .claimed

/-- The fence: every `handlePbxFallback` of an operation on a call may be made, and no join makes one. -/
def Controller.Fenced (c : Controller) : Prop :=
  (∀ id cell before op own mark rest input, c.cells id = some cell →
    cell.monitor.Made before op (own ++ mark :: rest) → mark.event = .called (.handlePbxFallback input) →
    MayFallBack (upTo before op own) op mark.state) ∧
  ∀ join task mark input, c.joins join = some task → mark ∈ task.marks →
    mark.event ≠ .called (.handlePbxFallback input)

/-- No renewal has its move to `ending` refused. -/
def RenewalGranted : AnswerCondition
  | _, .renew, .transitionCall input, answer => input.newState = .ending → answer ≠ .ok false
  | _, _, _, _ => True

section Fence

variable {binding : TenantBinding} {c : Controller} {allowed : Controller → Action → Prop}

/-- **The fence is crossed exactly by a renewal whose move to `ending` was refused.** -/
theorem fenced_iff (h : ControllerInvariant c) {id : Nat} {cell : Cell} {before : CallHistory} {op : CallOp}
    {own rest : List CallMark} {mark : CallMark} {input : FallbackRequest} (hcell : c.cells id = some cell)
    (hmade : cell.monitor.Made before op (own ++ mark :: rest))
    (hevent : mark.event = .called (.handlePbxFallback input)) :
    MayFallBack (upTo before op own) op mark.state ↔ ¬ (op = .renew ∧ 0 < count .endingRefused own) := by
  obtain ⟨start, hinv⟩ := h.cells id cell hcell
  obtain ⟨hfacts, hpermitted⟩ := hinv.good.made_event hmade (by simp [hevent])
  rw [hevent] at hpermitted
  obtain ⟨-, -, hcases, hrefused⟩ := hpermitted
  constructor
  · rintro (hgranted | ⟨hdrain, -⟩) ⟨hrenew, hpos⟩
    · have hactive := hrefused hrenew hpos
      have hnone := hfacts.progress.unended (.inr (.inr hactive))
      omega
    · rw [hdrain] at hrenew
      cases hrenew
  · intro hnot
    rcases hcases with hgranted | hdrain | hrenewal
    · exact .inl hgranted
    · exact .inr hdrain
    · exact absurd hrenewal hnot

/-- **PBX ownership fence.**  In every run a fallback is fenced unless it is made by a renewal whose move to
`ending` was refused; in a run without such refusals every fallback is fenced. -/
theorem pbx_ownership_fence (binding : TenantBinding) :
    (∀ c, Reaches Controller.step Always (Controller.initial binding) c →
      ∀ id cell before op own mark rest input, c.cells id = some cell →
        cell.monitor.Made before op (own ++ mark :: rest) →
        mark.event = .called (.handlePbxFallback input) →
        (MayFallBack (upTo before op own) op mark.state ↔
          ¬ (op = .renew ∧ 0 < count .endingRefused own))) ∧
    ∀ c, Reaches Controller.step (Controller.Obeys RenewalGranted) (Controller.initial binding) c →
      c.Fenced := by
  refine ⟨?_, ?_⟩
  · intro c h id cell before op own mark rest input hcell hmade hevent
    exact fenced_iff (controllerInvariant_reached h) hcell hmade hevent
  · intro c h
    have hinv := controllerInvariant_reached h
    refine ⟨?_, fun join task mark input hjoin hmem => join_no_fallback hinv hjoin hmem⟩
    intro id cell before op own mark rest input hcell hmade hevent
    refine (fenced_iff hinv hcell hmade hevent).mpr ?_
    rintro ⟨rfl, hpos⟩
    have hzero : count .endingRefused own = 0 := by
      refine count_eq_zero_of_obeys h hcell hmade (fun q => by cases q <;> rfl) (by simp) ?_
      intro earlier entry q answer htally
      cases q with
      | transitionCall input =>
          rcases answer with error | _ | _ <;> simp [answerTallies, transitionTallies] at htally
          simp [RenewalGranted, htally]
      | _ => rcases answer with _ | _ | _ <;> simp [answerTallies] at htally
    omega

end Fence

/-- A dependency that grants transitions meets the condition. -/
theorem renewalGranted_of_transition {d : Dependencies} (h : d.transition = .ok true) (history : CallHistory)
    (op : CallOp) (q : Request) : RenewalGranted history op q (d.respond q) := by
  cases op with
  | renew =>
      cases q with
      | transitionCall input =>
          intro _ hrefused
          have hsame : d.transition = .ok false := hrefused
          rw [h] at hsame
          cases hsame
      | _ => trivial
  | _ => trivial

/-- The renewal of an active call is refused and its move to `ending` granted: the caller is handed over. -/
def fencedRenewal : List Action :=
  let respond := Dependencies.willing.respond
  let losing := { Dependencies.willing with renew := .ok false }.respond
  admitting 0 "call" "session" ++ activating 0 ++
    [.timerFires 0, .opBegin 0, .opAnswer 0 losing, .opAnswer 0 respond, .opResume 0, .opAnswer 0 respond,
      .opAnswer 0 respond, .opResume 0, .opAnswer 0 respond, .opAnswer 0 respond, .opResume 0]

theorem pbx_ownership_fence_renewal :
    (Controller.after fencedRenewal).calls = [] ∧ (Controller.after fencedRenewal).Fenced := by
  refine ⟨by decide +kernel, (pbx_ownership_fence sampleBinding).2 _ ?_⟩
  refine Controller.reaches_meeting ?_ (by decide +kernel)
  have hwilling : ∀ history op q, RenewalGranted history op q (Dependencies.willing.respond q) :=
    renewalGranted_of_transition rfl
  have hlosing : ∀ history op q,
      RenewalGranted history op q ({ Dependencies.willing with renew := .ok false }.respond q) :=
    renewalGranted_of_transition rfl
  simp [fencedRenewal, admitting, activating, Action.Meets, hwilling, hlosing]

/-- The renewal of an active call is refused, its move to `ending` is refused, and its resources are
released. -/
def unfencedRenewal : List Action :=
  let respond := Dependencies.willing.respond
  let refusing := { Dependencies.willing with renew := .ok false, transition := .ok false }.respond
  admitting 0 "call" "session" ++ activating 0 ++
    [.timerFires 0, .opBegin 0, .opAnswer 0 refusing, .opAnswer 0 refusing, .opResume 0,
      .opAnswer 0 respond, .opAnswer 0 respond, .opResume 0]

/-- A renewal that falls back although no move to `ending` was granted. -/
def unfencedFallback : CallHistory × CallOp × List CallMark × CallMark → Bool
  | (before, .renew, own, ⟨_, .called (.handlePbxFallback _)⟩) =>
      tally .endingGranted (upTo before .renew own) == 0
  | _ => false

/-- A run in which a worker that lost the call disconnects the caller. -/
theorem unfenced_renewal :
    ¬ ∀ c, Reaches Controller.step Always (Controller.initial sampleBinding) c → c.Fenced := by
  intro hclaim
  have hrun : (execute Controller.step (Controller.initial sampleBinding) unfencedRenewal).isSome = true := by
    decide +kernel
  have hpending : ((Controller.after unfencedRenewal).pending 0).any unfencedFallback = true := by
    decide +kernel
  obtain ⟨cell, before, op, own, mark, hcell, hmade, hcheck⟩ := pending_made hpending
  unfold unfencedFallback at hcheck
  split at hcheck
  · rename_i before' own' state input hplace
    simp only [Prod.mk.injEq] at hplace
    obtain ⟨rfl, rfl, rfl, rfl⟩ := hplace
    have hnone := beq_iff_eq.mp hcheck
    rcases (hclaim _ (Controller.reaches_after hrun)).1 0 cell before _ own _ [] input hcell hmade rfl with
      hgranted | ⟨hdrain, -⟩
    · omega
    · cases hdrain
  · cases hcheck

end Connector
end VoiceAssistants
