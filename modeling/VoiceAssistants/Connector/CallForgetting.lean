import Mathlib.Tactic.ByContra
import VoiceAssistants.Connector.ControllerInvariants

/-!
# When a call has left the map

A second discipline over the operations on a call, about `calls.delete(entry.callId)` alone: an operation that
leaves the entry `ended` or `failed` has deleted the call; so has a PBX end that reports the call as gone, and a
`#startCall` that does not report `call_active`, unless its `catch` block was denied something (`Denied`).

The discipline allows every call, write and output; its rules only follow the state of the entry.
`Settled` collects the postconditions, `forgetting_reached` what they say about the entries of a controller.
-/

namespace VoiceAssistants
namespace Connector

open Async ThreeCx

/-- An answer that keeps the `catch` block of `#startCall` from releasing the call, handing its caller over or
recording the failure. -/
def deniesAnswer : (q : Request) → Except String q.Answer → Bool
  | .closeMedia _, .error _ => true
  | .stopAgent _, .error _ => true
  | .handlePbxFallback _, .ok true => false
  | .handlePbxFallback _, _ => true
  | .transitionCall _, .ok true => false
  | .transitionCall input, _ => input.newState = .ending || input.newState = .failed
  | _, _ => false

/-- Whether a mark is such an answer. -/
def denies (mark : CallMark) : Bool :=
  match mark.event with
  | .answered q answer => deniesAnswer q answer
  | _ => false

/-- The operation got such an answer. -/
def Denied (own : List CallMark) : Prop :=
  ∃ mark ∈ own, denies mark = true

/-- `["call_ended", "already_terminal", "call_not_tracked"].includes(reason)`. -/
def Gone (reason : String) : Prop :=
  reason = "call_ended" ∨ reason = "already_terminal" ∨ reason = "call_not_tracked"

/-- What an operation that has settled says about the map. -/
structure Settled (op : CallOp) (before : CallHistory) (own : List CallMark) (result : Except String Decision)
    (entry : Entry) : Prop where
  terminal : entry.state.Terminal → 0 < tally .forgets (upTo before op own)
  ended : op = .pbxEnd → ∀ decision, result = .ok decision → Gone decision.reason →
    0 < tally .forgets (upTo before op own)
  started : op = .start → ∃ decision, result = .ok decision ∧
    (decision.reason = "call_active" ∨ 0 < tally .forgets (upTo before op own) ∨ Denied own)

/-- The operations with these postconditions, free in everything else. -/
def forgetDiscipline (binding : TenantBinding) : Discipline callInterface CallOp Decision where
  body := CallOp.body binding
  rely := callRely
  drift := callDrift
  writes _ _ _ _ _ := True
  events _ _ _ _ _ := True
  suspends _ _ _ _ := True
  post op before result entry own := Settled op before own result entry
  invariant entry history := entry.state.Terminal → 0 < tally .forgets history
  later op := op ≠ .start

section Rules

variable {binding : TenantBinding} {op : CallOp} {before : CallHistory} {own : List CallMark} {entry : Entry}

/-- The entry keeps its state while the operation makes more marks. -/
structure Stays (entry entry' : Entry) (own own' : List CallMark) : Prop where
  state : entry'.state = entry.state
  marks : own <+: own'

theorem Stays.trans {entry' entry'' : Entry} {own' own'' : List CallMark} (h : Stays entry entry' own own')
    (h' : Stays entry' entry'' own' own'') : Stays entry entry'' own own'' :=
  ⟨h'.state.trans h.state, h.marks.trans h'.marks⟩

theorem Denied.mono {own' : List CallMark} (h : Denied own) (hmarks : own <+: own') : Denied own' := by
  obtain ⟨mark, hmem, hdenies⟩ := h
  exact ⟨mark, hmarks.subset hmem, hdenies⟩

theorem denied_last {q : Request} {answer : Except String q.Answer} {state : Entry}
    (h : deniesAnswer q answer = true) : Denied (own ++ [⟨state, .answered q answer⟩]) :=
  ⟨⟨state, .answered q answer⟩, by simp, h⟩

theorem stays_answered (own : List CallMark) {entry' : Entry} (q : Request) (answer : Except String q.Answer)
    (hrely : callRely op entry entry') :
    Stays entry entry' own (own ++ [⟨entry, .called q⟩] ++ [⟨entry', .answered q answer⟩]) := by
  obtain ⟨timer, rfl⟩ := hrely.timer
  constructor
  · rfl
  · rw [List.append_assoc]
    exact List.prefix_append _ _

/-- `#transition`. -/
theorem free_transition {post : Post callInterface Bool} {newState : CallState} {dispatchId : Option String}
    (hgranted : ∀ entry' own', entry'.state = newState → own <+: own' → post (.ok true) entry' own')
    (hrefused : ∀ entry' own', Stays entry entry' own own' → (newState = .ending ∨ newState = .failed → Denied own') →
      post (.ok false) entry' own')
    (hthrew : ∀ error entry' own', Stays entry entry' own own' →
      (newState = .ending ∨ newState = .failed → Denied own') → post (.error error) entry' own') :
    (transition binding newState dispatchId).awaited.Safe ((forgetDiscipline binding).contract op before) post
      entry own := by
  refine (Program.safe_awaited _ _ _).mpr ⟨trivial, trivial, ?_⟩
  have hthrows (error : String) (hnew : newState = .ending ∨ newState = .failed) :
      deniesAnswer (.transitionCall (transitionRequest binding entry newState dispatchId)) (.error error) = true := by
    rcases hnew with rfl | rfl <;> rfl
  have hrefuses (hnew : newState = .ending ∨ newState = .failed) :
      deniesAnswer (.transitionCall (transitionRequest binding entry newState dispatchId)) (.ok false) = true := by
    rcases hnew with rfl | rfl <;> rfl
  rintro entry₁ hrely (error | _ | _)
  · have hstays := stays_answered own (.transitionCall (transitionRequest binding entry newState dispatchId)) (.error error)
      hrely
    refine ⟨trivial, fun entry₂ hrely₂ => ?_⟩
    obtain ⟨timer, rfl⟩ := callRely.timer hrely₂
    exact hthrew error _ _ ⟨hstays.state, hstays.marks⟩ fun hnew => denied_last (hthrows error hnew)
  · have hstays := stays_answered own (.transitionCall (transitionRequest binding entry newState dispatchId)) (.ok false)
      hrely
    refine ⟨trivial, fun entry₂ hrely₂ => ?_⟩
    obtain ⟨timer, rfl⟩ := callRely.timer hrely₂
    exact hrefused _ _ ⟨hstays.state, hstays.marks⟩ fun hnew => denied_last (hrefuses hnew)
  · have hstays := stays_answered own (.transitionCall (transitionRequest binding entry newState dispatchId)) (.ok true)
      hrely
    refine ⟨trivial, trivial, fun entry₂ hrely₂ => ?_⟩
    obtain ⟨timer, rfl⟩ := callRely.timer hrely₂
    exact hgranted _ _ rfl hstays.marks

/-- `#transition` in a `try`. -/
theorem free_tryTransition {post : Post callInterface Bool} {newState : CallState}
    (hgranted : ∀ entry' own', entry'.state = newState → own <+: own' → post (.ok true) entry' own')
    (hdenied : ∀ entry' own', Stays entry entry' own own' → (newState = .ending ∨ newState = .failed → Denied own') →
      post (.ok false) entry' own') :
    (tryTransition binding newState).Safe ((forgetDiscipline binding).contract op before) post entry own := by
  unfold tryTransition
  refine (Program.safe_attempt_bind _ _ _ _).mpr (free_transition ?_ ?_ ?_)
  · exact hgranted
  · exact hdenied
  · exact fun _ => hdenied

/-- The first half of `#cleanup`. -/
theorem free_closeBridge {post : Post callInterface Bool}
    (hpost : ∀ closed entry' own', Stays entry entry' own own' → (closed = false → Denied own') →
      post (.ok closed) entry' own') :
    closeBridge.Safe ((forgetDiscipline binding).contract op before) post entry own := by
  unfold closeBridge
  rw [Program.safe_get_bind]
  cases entry.closeMedia with
  | none => exact hpost true entry own ⟨rfl, List.prefix_rfl⟩ fun h => Bool.noConfusion h
  | some bridge =>
      refine (Program.safe_attempt_request_bind _ _ _).mpr ⟨trivial, trivial, ?_⟩
      rintro entry₁ hrely (error | answer)
      · exact hpost false _ _ (stays_answered _ _ _ hrely) fun _ => denied_last rfl
      · have hstays := stays_answered own (.closeMedia bridge) (.ok answer) hrely
        refine ⟨trivial, hpost true _ _ ?_ fun h => Bool.noConfusion h⟩
        exact ⟨hstays.state, hstays.marks⟩

/-- The second half of `#cleanup`. -/
theorem free_stopDispatch {post : Post callInterface Bool}
    (hpost : ∀ stopped entry' own', Stays entry entry' own own' → (stopped = false → Denied own') →
      post (.ok stopped) entry' own') :
    (stopDispatch binding).Safe ((forgetDiscipline binding).contract op before) post entry own := by
  unfold stopDispatch
  rw [Program.safe_get_bind]
  cases entry.dispatchId with
  | none => exact hpost true entry own ⟨rfl, List.prefix_rfl⟩ fun h => Bool.noConfusion h
  | some dispatchId =>
      refine (Program.safe_attempt_request_bind _ _ _).mpr ⟨trivial, trivial, ?_⟩
      rintro entry₁ hrely (error | answer)
      · exact hpost false _ _ (stays_answered _ _ _ hrely) fun _ => denied_last rfl
      · have hstays := stays_answered own (.stopAgent (stopRequest binding entry dispatchId)) (.ok answer) hrely
        refine ⟨trivial, hpost true _ _ ?_ fun h => Bool.noConfusion h⟩
        exact ⟨hstays.state, hstays.marks⟩

/-- `#cleanup`. -/
theorem free_cleanup {post : Post callInterface Bool}
    (hpost : ∀ clean entry' own', Stays entry entry' own own' → (clean = false → Denied own') →
      post (.ok clean) entry' own') :
    (cleanup binding).awaited.Safe ((forgetDiscipline binding).contract op before) post entry own := by
  refine (Program.safe_awaited _ _ _).mpr ?_
  unfold cleanup
  rw [Program.safe_modify_bind]
  refine ⟨trivial, ?_⟩
  rw [Program.safe_bind]
  apply free_closeBridge
  intro closed entry₁ own₁ hstays₁ hdenied₁
  show Program.Safe _ _ (stopDispatch binding >>= _) entry₁ own₁
  rw [Program.safe_bind]
  apply free_stopDispatch
  intro stopped entry₂ own₂ hstays₂ hdenied₂
  refine ⟨trivial, fun entry₃ hrely => ?_⟩
  obtain ⟨timer, rfl⟩ := callRely.timer hrely
  apply hpost
  · exact ⟨hstays₂.state.trans hstays₁.state, hstays₁.marks.trans hstays₂.marks⟩
  · intro hfailed
    rcases Bool.and_eq_false_iff.mp hfailed with hclosed | hstopped
    · exact (hdenied₁ hclosed).mono hstays₂.marks
    · exact hdenied₂ hstopped

/-- `handlePbxFallback` in a `try`. -/
theorem free_pbxFallback {post : Post callInterface Bool} {request : Entry → FallbackRequest}
    (hpost : ∀ complete entry' own', Stays entry entry' own own' → (complete = false → Denied own') →
      post (.ok complete) entry' own') :
    (pbxFallback request).Safe ((forgetDiscipline binding).contract op before) post entry own := by
  unfold pbxFallback
  rw [Program.safe_get_bind]
  refine (Program.safe_attempt_request_bind _ _ _).mpr ⟨trivial, trivial, ?_⟩
  rintro entry₁ hrely (error | _ | _)
  · exact hpost false _ _ (stays_answered _ _ _ hrely) fun _ => denied_last rfl
  · exact hpost false _ _ (stays_answered _ _ _ hrely) fun _ => denied_last rfl
  · exact hpost true _ _ (stays_answered _ _ _ hrely) fun h => Bool.noConfusion h

/-- An operation that deletes the call has settled what it owes. -/
theorem free_forget {reason : String} :
    (do forget; decision reason : CallProgram Decision).Safe ((forgetDiscipline binding).contract op before)
      ((forgetDiscipline binding).post op before) entry own := by
  have hforgot : 0 < tally .forgets
      (upTo before op (own ++ [⟨entry, .emitted .forget⟩] ++ [⟨entry, .emitted (.decision reason)⟩])) := by
    have hone : count .forgets (own ++ [⟨entry, .emitted .forget⟩] ++ [⟨entry, .emitted (.decision reason)⟩]) =
        count .forgets own + 1 := by
      simp [tallies]
    rw [tally_upTo, hone]
    omega
  exact ⟨trivial, trivial, fun _ => hforgot, fun _ _ _ _ => hforgot, fun _ => ⟨.of reason, rfl, .inr (.inl hforgot)⟩⟩

/-- A decision about a call that stays, or has been deleted before. -/
theorem free_decision {reason : String}
    (hterminal : entry.state.Terminal → 0 < tally .forgets (upTo before op own))
    (hended : op = .pbxEnd → Gone reason → entry.state.Terminal)
    (hstarted : op = .start → reason = "call_active" ∨ Denied own) :
    (decision reason).Safe ((forgetDiscipline binding).contract op before) ((forgetDiscipline binding).post op before)
      entry own := by
  have hforgot (h : entry.state.Terminal) :
      0 < tally .forgets (upTo before op (own ++ [⟨entry, .emitted (.decision reason)⟩])) := by
    have hbefore := hterminal h
    rw [tally_upTo] at hbefore ⊢
    rw [count_append]
    omega
  refine ⟨trivial, hforgot, ?_, ?_⟩
  · intro hop decision hresult hgone
    obtain rfl := Except.ok.inj hresult
    exact hforgot (hended hop hgone)
  · intro hop
    refine ⟨.of reason, rfl, ?_⟩
    rcases hstarted hop with hactive | hdenied
    · exact .inl hactive
    · exact .inr (.inr (hdenied.mono (List.prefix_append _ _)))

/-- An exception of a later operation on a call that is not over. -/
theorem settled_error {error : String} (hstate : ¬ entry.state.Terminal) (hop : op ≠ .start) :
    Settled op before own (.error error) entry where
  terminal := fun h => absurd h hstate
  ended := by
    intro _ decision h
    cases h
  started := fun h => absurd h hop

/-! ## The operations -/

/-- The `catch` block of `#startCall`. -/
theorem free_startFailed {stage : StartStage} {error : String} (hstate : ¬ entry.state.Terminal) :
    (startFailed binding stage error).Safe ((forgetDiscipline binding).contract .start before)
      ((forgetDiscipline binding).post .start before) entry own := by
  have hpbx {P : Prop} (h : CallOp.start = .pbxEnd) : P := CallOp.noConfusion h
  have hending {state : CallState} (h : state = .ending) : ¬ state.Terminal := by simp [h, CallState.Terminal]
  unfold startFailed
  rw [Program.safe_bind]
  apply free_cleanup
  intro clean entry₁ own₁ hstays₁ hdenied₁
  have hstate₁ : ¬ entry₁.state.Terminal := hstays₁.state ▸ hstate
  cases clean with
  | false =>
      dsimp only
      rw [if_neg Bool.false_ne_true, Program.safe_bind]
      apply free_tryTransition
      · intro entry₂ own₂ hnew hmarks
        exact free_decision (fun h => absurd h (hending hnew)) hpbx fun _ => .inr ((hdenied₁ rfl).mono hmarks)
      · intro entry₂ own₂ hstays₂ hdenied₂
        exact free_decision (fun h => absurd h (hstays₂.state ▸ hstate₁)) hpbx fun _ => .inr (hdenied₂ (.inl rfl))
  | true =>
      dsimp only
      rw [if_pos rfl, Program.safe_bind]
      apply free_tryTransition
      · intro entry₂ own₂ hnew hmarks
        dsimp only
        rw [if_pos rfl, Program.safe_bind]
        apply free_pbxFallback
        intro complete entry₃ own₃ hstays₃ hdenied₃
        have hstate₃ : ¬ entry₃.state.Terminal := hending (hstays₃.state.trans hnew)
        cases complete with
        | false => exact free_decision (fun h => absurd h hstate₃) hpbx fun _ => .inr (hdenied₃ rfl)
        | true =>
            dsimp only
            rw [if_pos rfl, Program.safe_bind]
            apply free_tryTransition
            · exact fun entry₄ own₄ _ _ => free_forget
            · intro entry₄ own₄ hstays₄ hdenied₄
              exact free_decision (fun h => absurd h (hstays₄.state ▸ hstate₃)) hpbx
                fun _ => .inr (hdenied₄ (.inr rfl))
      · intro entry₂ own₂ hstays₂ hdenied₂
        exact free_decision (fun h => absurd h (hstays₂.state ▸ hstate₁)) hpbx fun _ => .inr (hdenied₂ (.inl rfl))

/-- `#startCall` once the call is connecting. -/
theorem free_connectCall (hstate : ¬ entry.state.Terminal) :
    (connectCall binding).Safe ((forgetDiscipline binding).contract .start before)
      ((forgetDiscipline binding).post .start before) entry own := by
  have hactive {state : CallState} (h : state = .active) : ¬ state.Terminal := by simp [h, CallState.Terminal]
  unfold connectCall
  rw [Program.safe_get_bind]
  refine (Program.safe_attempt_request_bind _ _ _).mpr ⟨trivial, trivial, ?_⟩
  rintro entry₁ hrely₁ (error | dispatch)
  · obtain rfl : entry₁ = entry := hrely₁
    exact free_startFailed hstate
  · obtain rfl : entry₁ = entry := hrely₁
    refine ⟨trivial, ?_⟩
    cases boundedString dispatch 255 with
    | none => exact free_startFailed hstate
    | some dispatchId =>
        refine (Program.safe_attempt_request_bind _ _ _).mpr ⟨trivial, trivial, ?_⟩
        rintro entry₂ hrely₂ (error | _ | bridge)
        · obtain rfl := hrely₂
          exact free_startFailed hstate
        · obtain rfl := hrely₂
          exact free_startFailed hstate
        · obtain rfl := hrely₂
          refine ⟨trivial, ?_⟩
          refine (Program.safe_attempt_bind _ _ _ _).mpr (free_transition ?_ ?_ ?_)
          · intro entry₃ own₃ hnew _
            refine ⟨trivial, free_decision (fun h => absurd h ?_) (fun h => CallOp.noConfusion h) fun _ => .inl rfl⟩
            obtain ⟨timer₃, hscheduled⟩ := scheduleLeaseRenewal_timer entry₃
            rw [hscheduled]
            exact hactive hnew
          · exact fun entry₃ own₃ hstays _ => free_startFailed (hstays.state ▸ hstate)
          · exact fun error entry₃ own₃ hstays _ => free_startFailed (hstays.state ▸ hstate)

/-- `#startCall`. -/
theorem free_startCall (hstate : ¬ entry.state.Terminal) :
    (startCall binding).Safe ((forgetDiscipline binding).contract .start before)
      ((forgetDiscipline binding).post .start before) entry own := by
  unfold startCall
  refine (Program.safe_attempt_bind _ _ _ _).mpr (free_transition ?_ ?_ ?_)
  · exact fun entry₁ own₁ hnew _ => free_connectCall (by simp [hnew, CallState.Terminal])
  · intro entry₁ own₁ hstays₁ _
    dsimp only
    rw [Program.safe_bind]
    apply free_cleanup
    exact fun _ _ _ _ _ => free_forget
  · exact fun error entry₁ own₁ hstays₁ _ => free_startFailed (hstays₁.state ▸ hstate)

/-- A later operation that leaves a call alone which is not over. -/
theorem free_keep {reason : String} (hop : op ≠ .start) (hgone : ¬ Gone reason) (hstate : ¬ entry.state.Terminal) :
    (decision reason).Safe ((forgetDiscipline binding).contract op before) ((forgetDiscipline binding).post op before)
      entry own :=
  free_decision (fun h => absurd h hstate) (fun _ h => absurd h hgone) fun h => absurd h hop

/-- The last step of an operation: the terminal transition, and leaving the map. -/
theorem free_finish {newState : CallState} {done refused : String} (hop : op ≠ .start) (hgone : ¬ Gone refused)
    (hstate : ¬ entry.state.Terminal) :
    (do
      if ← (transition binding newState none).awaited then
        forget
        decision done
      else decision refused : CallProgram Decision).Safe
        ((forgetDiscipline binding).contract op before) ((forgetDiscipline binding).post op before) entry own := by
  rw [Program.safe_bind]
  apply free_transition
  · exact fun _ _ _ _ => free_forget
  · exact fun _ _ hstays _ => free_keep hop hgone (hstays.state ▸ hstate)
  · exact fun _ _ _ hstays _ => settled_error (hstays.state ▸ hstate) hop

/-- `entry.state === "ending"`, or the transition to it. -/
theorem free_ensureEnding {post : Post callInterface Bool}
    (hending : ∀ entry' own', ¬ entry'.state.Terminal → post (.ok true) entry' own')
    (hrefused : ∀ entry' own', Stays entry entry' own own' → post (.ok false) entry' own')
    (hthrew : ∀ error entry' own', Stays entry entry' own own' → post (.error error) entry' own') :
    (ensureEnding binding).Safe ((forgetDiscipline binding).contract op before) post entry own := by
  unfold ensureEnding
  rw [Program.safe_get_bind]
  split
  · rename_i hstate
    exact hending entry own (by simp [hstate, CallState.Terminal])
  · apply free_transition
    · exact fun entry' own' hnew _ => hending entry' own' (by simp [hnew, CallState.Terminal])
    · exact fun entry' own' hstays _ => hrefused entry' own' hstays
    · exact fun error entry' own' hstays _ => hthrew error entry' own' hstays

/-- The operation of `handleMediaFailure`. -/
theorem free_handleMediaFailure {reason : String} (hinv : entry.state.Terminal → 0 < tally .forgets before) :
    (handleMediaFailure binding reason).Safe ((forgetDiscipline binding).contract (.mediaFailure reason) before)
      ((forgetDiscipline binding).post (.mediaFailure reason) before) entry [] := by
  have hop : CallOp.mediaFailure reason ≠ .start := CallOp.noConfusion
  have hinv' : entry.state.Terminal → 0 < tally .forgets (upTo before (.mediaFailure reason) []) := by
    simpa using hinv
  unfold handleMediaFailure
  rw [Program.safe_modify_bind]
  refine ⟨trivial, ?_⟩
  rw [Program.safe_get_bind]
  split
  · exact free_decision hinv' (fun h => CallOp.noConfusion h) fun h => absurd h hop
  · rename_i hlive
    rw [Program.safe_bind]
    apply free_ensureEnding
    · intro entry₁ own₁ hstate₁
      dsimp only
      rw [if_pos rfl, Program.safe_bind]
      apply free_cleanup
      intro clean entry₂ own₂ hstays₂ _
      have hstate₂ : ¬ entry₂.state.Terminal := hstays₂.state ▸ hstate₁
      cases clean with
      | false => exact free_keep hop (by simp [Gone]) hstate₂
      | true =>
          dsimp only
          rw [if_pos rfl, Program.safe_bind]
          apply free_pbxFallback
          intro complete entry₃ own₃ hstays₃ _
          have hstate₃ : ¬ entry₃.state.Terminal := hstays₃.state ▸ hstate₂
          cases complete with
          | false => exact free_keep hop (by simp [Gone]) hstate₃
          | true => exact free_finish hop (by simp [Gone]) hstate₃
    · exact fun entry₁ own₁ hstays => free_keep hop (by simp [Gone]) (hstays.state ▸ hlive)
    · exact fun error entry₁ own₁ hstays => settled_error (hstays.state ▸ hlive) hop

/-- The operation of `handleCallHangup`. -/
theorem free_handleCallHangup {reason : String} (hinv : entry.state.Terminal → 0 < tally .forgets before) :
    (handleCallHangup binding reason).Safe ((forgetDiscipline binding).contract (.hangup reason) before)
      ((forgetDiscipline binding).post (.hangup reason) before) entry [] := by
  have hop : CallOp.hangup reason ≠ .start := CallOp.noConfusion
  have hinv' : entry.state.Terminal → 0 < tally .forgets (upTo before (.hangup reason) []) := by
    simpa using hinv
  unfold handleCallHangup
  rw [Program.safe_modify_bind]
  refine ⟨trivial, ?_⟩
  rw [Program.safe_get_bind]
  split
  · exact free_decision hinv' (fun h => CallOp.noConfusion h) fun h => absurd h hop
  · rename_i hlive
    rw [Program.safe_bind]
    apply free_ensureEnding
    · intro entry₁ own₁ hstate₁
      dsimp only
      rw [if_pos rfl, Program.safe_bind]
      apply free_cleanup
      intro clean entry₂ own₂ hstays₂ _
      have hstate₂ : ¬ entry₂.state.Terminal := hstays₂.state ▸ hstate₁
      cases clean with
      | false => exact free_keep hop (by simp [Gone]) hstate₂
      | true =>
          dsimp only
          rw [if_pos rfl, Program.safe_bind]
          apply free_pbxFallback
          intro complete entry₃ own₃ hstays₃ _
          exact free_finish hop (by simp [Gone]) (hstays₃.state ▸ hstate₂)
    · exact fun entry₁ own₁ hstays => free_keep hop (by simp [Gone]) (hstays.state ▸ hlive)
    · exact fun error entry₁ own₁ hstays => settled_error (hstays.state ▸ hlive) hop

/-- The operation of `shutdown`. -/
theorem free_drain :
    (Connector.drain binding).Safe ((forgetDiscipline binding).contract .drain before)
      ((forgetDiscipline binding).post .drain before) entry [] := by
  have hop : CallOp.drain ≠ .start := CallOp.noConfusion
  -- from `#cleanup` on
  have hrest {entry₁ : Entry} {own₁ : List CallMark} (hstate₁ : ¬ entry₁.state.Terminal) :
      (do
        if ← (cleanup binding).awaited then
          if ← pbxFallback fun entry => fallbackRequest binding entry "connector_shutdown" then
            if ← (transition binding .ended none).awaited then
              forget
              decision "call_ended_for_shutdown"
            else decision "shutdown_state_update_failed"
          else decision "shutdown_fallback_incomplete"
        else decision "shutdown_cleanup_incomplete" : CallProgram Decision).Safe
          ((forgetDiscipline binding).contract .drain before) ((forgetDiscipline binding).post .drain before)
          entry₁ own₁ := by
    rw [Program.safe_bind]
    apply free_cleanup
    intro clean entry₂ own₂ hstays₂ _
    have hstate₂ : ¬ entry₂.state.Terminal := hstays₂.state ▸ hstate₁
    cases clean with
    | false => exact free_keep hop (by simp [Gone]) hstate₂
    | true =>
        dsimp only
        rw [if_pos rfl, Program.safe_bind]
        apply free_pbxFallback
        intro complete entry₃ own₃ hstays₃ _
        have hstate₃ : ¬ entry₃.state.Terminal := hstays₃.state ▸ hstate₂
        cases complete with
        | false => exact free_keep hop (by simp [Gone]) hstate₃
        | true => exact free_finish hop (by simp [Gone]) hstate₃
  unfold Connector.drain
  rw [Program.safe_modify_bind]
  refine ⟨trivial, ?_⟩
  rw [Program.safe_get_bind]
  split
  · exact free_forget
  · rename_i hlive
    split
    · rw [Program.safe_bind]
      apply free_transition
      · exact fun entry₁ own₁ hnew _ => hrest (by simp [hnew, CallState.Terminal])
      · exact fun entry₁ own₁ hstays _ => free_keep hop (by simp [Gone]) (hstays.state ▸ hlive)
      · exact fun error entry₁ own₁ hstays _ => settled_error (hstays.state ▸ hlive) hop
    · exact hrest hlive

/-- The `try` block of the operation of `#endCall`. -/
theorem free_endCallBody (hinv : entry.state.Terminal → 0 < tally .forgets before) :
    (endCallBody binding).Safe ((forgetDiscipline binding).contract .pbxEnd before)
      ((forgetDiscipline binding).post .pbxEnd before) entry [] := by
  have hop : CallOp.pbxEnd ≠ .start := CallOp.noConfusion
  have hinv' : entry.state.Terminal → 0 < tally .forgets (upTo before .pbxEnd []) := by
    simpa using hinv
  unfold endCallBody
  rw [Program.safe_modify_bind]
  refine ⟨trivial, ?_⟩
  rw [Program.safe_get_bind]
  split
  · rename_i hterminal
    exact free_decision hinv' (fun _ _ => hterminal) fun h => absurd h hop
  · rename_i hlive
    split
    · exact free_finish hop (by simp [Gone]) hlive
    · rw [Program.safe_bind]
      apply free_ensureEnding
      · intro entry₁ own₁ hstate₁
        dsimp only
        rw [if_pos rfl, Program.safe_bind]
        apply free_cleanup
        intro clean entry₂ own₂ hstays₂ _
        have hstate₂ : ¬ entry₂.state.Terminal := hstays₂.state ▸ hstate₁
        cases clean with
        | false => exact free_keep hop (by simp [Gone]) hstate₂
        | true => exact free_finish hop (by simp [Gone]) hstate₂
      · exact fun entry₁ own₁ hstays => free_keep hop (by simp [Gone]) (hstays.state ▸ hlive)
      · exact fun error entry₁ own₁ hstays => settled_error (hstays.state ▸ hlive) hop

/-- The operation of `#endCall`. -/
theorem free_endCall (hinv : entry.state.Terminal → 0 < tally .forgets before) :
    (endCall binding).Safe ((forgetDiscipline binding).contract .pbxEnd before)
      ((forgetDiscipline binding).post .pbxEnd before) entry [] := by
  have hop : CallOp.pbxEnd ≠ .start := CallOp.noConfusion
  unfold endCall
  refine (Program.safe_attempt_bind _ _ _ _).mpr ((free_endCallBody hinv).imp ?_)
  rintro (error | result) entry₁ own₁ hsettled
  · exact free_decision hsettled.terminal (fun _ h => absurd h (by simp [Gone])) fun h => absurd h hop
  · exact hsettled

/-- `#renewLease` once the renewal is reported lost. -/
theorem free_leaseLost (hstate : ¬ entry.state.Terminal) :
    (leaseLost binding).Safe ((forgetDiscipline binding).contract .renew before)
      ((forgetDiscipline binding).post .renew before) entry own := by
  have hop : CallOp.renew ≠ .start := CallOp.noConfusion
  -- from `#cleanup` on
  have hrest {transitioned : Bool} {entry₁ : Entry} {own₁ : List CallMark} (hstate₁ : ¬ entry₁.state.Terminal) :
      (do
        if ← (cleanup binding).awaited then
          if ← pbxFallback fun entry => fallbackRequest binding entry "call_claim_lease_lost" then
            if transitioned then
              if ← (transition binding .ended none).awaited then
                forget
                decision "call_ended_after_lease_loss"
              else decision "lease_lost_state_update_failed"
            else decision "lease_lost_state_update_failed"
          else decision "lease_lost_fallback_incomplete"
        else decision "lease_lost_cleanup_incomplete" : CallProgram Decision).Safe
          ((forgetDiscipline binding).contract .renew before) ((forgetDiscipline binding).post .renew before)
          entry₁ own₁ := by
    rw [Program.safe_bind]
    apply free_cleanup
    intro clean entry₂ own₂ hstays₂ _
    have hstate₂ : ¬ entry₂.state.Terminal := hstays₂.state ▸ hstate₁
    cases clean with
    | false => exact free_keep hop (by simp [Gone]) hstate₂
    | true =>
        dsimp only
        rw [if_pos rfl, Program.safe_bind]
        apply free_pbxFallback
        intro complete entry₃ own₃ hstays₃ _
        have hstate₃ : ¬ entry₃.state.Terminal := hstays₃.state ▸ hstate₂
        cases complete with
        | false => exact free_keep hop (by simp [Gone]) hstate₃
        | true =>
            cases transitioned with
            | false => exact free_keep hop (by simp [Gone]) hstate₃
            | true => exact free_finish hop (by simp [Gone]) hstate₃
  unfold leaseLost
  rw [Program.safe_modify_bind]
  refine ⟨trivial, ?_⟩
  rw [Program.safe_modify_bind]
  refine ⟨trivial, ?_⟩
  rw [Program.safe_bind]
  apply free_transition
  · exact fun entry₁ own₁ hnew _ => hrest (by simp [hnew, CallState.Terminal])
  · exact fun entry₁ own₁ hstays _ => hrest (hstays.state ▸ hstate)
  · exact fun error entry₁ own₁ hstays _ => settled_error (hstays.state ▸ hstate) hop

/-- `#renewLease`. -/
theorem free_renewLease (hinv : entry.state.Terminal → 0 < tally .forgets before) :
    (renewLease binding).Safe ((forgetDiscipline binding).contract .renew before)
      ((forgetDiscipline binding).post .renew before) entry [] := by
  have hop : CallOp.renew ≠ .start := CallOp.noConfusion
  have hinv' : entry.state.Terminal → 0 < tally .forgets (upTo before .renew []) := by
    simpa using hinv
  unfold renewLease
  rw [Program.safe_get_bind]
  split
  · exact free_decision hinv' (fun h => CallOp.noConfusion h) fun h => absurd h hop
  · rename_i hactive
    have hstate : ¬ entry.state.Terminal := by simp [not_not.mp hactive, CallState.Terminal]
    refine (Program.safe_attempt_request_bind _ _ _).mpr ⟨trivial, trivial, ?_⟩
    rintro entry₁ hrely (error | _ | _)
    · obtain ⟨timer, rfl⟩ : ∃ timer, entry₁ = { entry with leaseTimer := timer } := hrely
      rw [Program.safe_modify_bind, Program.safe_get_bind]
      refine ⟨trivial, ?_⟩
      split
      · exact free_keep hop (by simp [Gone]) hstate
      · exact free_leaseLost hstate
    · obtain ⟨timer, rfl⟩ : ∃ timer, entry₁ = { entry with leaseTimer := timer } := hrely
      exact free_leaseLost hstate
    · obtain ⟨timer, rfl⟩ : ∃ timer, entry₁ = { entry with leaseTimer := timer } := hrely
      exact ⟨trivial, free_keep hop (by simp [Gone]) hstate⟩

/-- **Every operation on a call settles what it owes to the map.** -/
theorem forgetDiscipline_sound {start : Entry} (h : Unstarted start) : (forgetDiscipline binding).Sound start .start where
  rely_refl := callRely_refl
  rely_trans := fun _ _ _ _ => callRely_trans
  suspends_rely := fun _ _ _ _ _ _ _ => trivial
  invariant_drift := by
    rintro a b history ⟨timer, rfl⟩ hinv
    exact hinv
  opens := by
    rintro a rfl
    exact free_startCall (by simp [h.claimed, CallState.Terminal])
  follows := by
    intro op a before hlater hinv
    cases op with
    | start => exact absurd rfl hlater
    | mediaFailure reason => exact free_handleMediaFailure hinv
    | hangup reason => exact free_handleCallHangup hinv
    | pbxEnd => exact free_endCall hinv
    | drain => exact free_drain
    | renew => exact free_renewLease hinv
  settles := fun _ _ _ _ _ hpost => hpost.terminal

end Rules

/-! ## The entries of a controller -/

/-- The operations on an entry settle what they owe to the map. -/
def Forgets (binding : TenantBinding) (cell : Cell) : Prop :=
  ∃ start, Unstarted start ∧ (forgetDiscipline binding).Good start .start cell.monitor

/-- The entries settle what they owe to the map, and the map holds each call id once and no entry that has been
deleted. -/
structure TrackedInvariant (c : Controller) : Prop where
  cells : ∀ id cell, c.cells id = some cell → Forgets c.binding cell
  keys : (c.calls.map Prod.fst).Nodup
  kept : ∀ tracked ∈ c.calls, ∀ cell, c.cells tracked.2 = some cell → tally .forgets cell.monitor.history = 0

section Tracked

open Controller

variable {binding : TenantBinding} {start : Entry} {a : Action} {id : Nat} {cell cell' : Cell} {c c' : Controller}

/-- Arming or disarming the timer once `#startCall` has settled. -/
theorem Forgets.touch (h : Forgets binding cell) (hinv : CellInvariant binding start cell)
    (hsettled : cell.monitor.settled ≠ []) {f : Entry → Entry}
    (hf : ∃ timer, f cell.monitor.state = { cell.monitor.state with leaseTimer := timer }) (unsettled : Bool) :
    Forgets binding ⟨cell.monitor.touch f, unsettled⟩ := by
  obtain ⟨first, hfirst, hgood⟩ := h
  obtain ⟨timer, hf⟩ := hf
  refine ⟨first, hfirst, hgood.touch (forgetDiscipline_sound hfirst) ?_ ?_ ?_⟩
  · intro turn hrun
    rw [hf]
    exact callRely_of_timer (hinv.running_ne_start hsettled hrun) timer
  · exact fun _ hnil => absurd hnil hsettled
  · exact fun _ _ => ⟨timer, hf⟩

theorem Forgets.change (h : Forgets binding cell) (hinv : CellInvariant binding start cell)
    (hchange : CellChange binding a id (some cell) (some cell')) : Forgets binding cell' := by
  obtain ⟨first, hfirst, hgood⟩ := h
  have hsound : (forgetDiscipline binding).Sound first .start := forgetDiscipline_sound hfirst
  cases hchange with
  | same => exact ⟨first, hfirst, hgood⟩
  | queued _ op notStart notRenew => exact ⟨first, hfirst, hgood.enqueue notStart⟩
  | fired _ armed =>
      have hsettled : cell.monitor.settled ≠ [] := fun hnil => by
        have hunarmed := (hinv.timers.asleep hnil).1
        rw [armed] at hunarmed
        cases hunarmed
      obtain ⟨first, hfirst, hgood⟩ :=
        Forgets.touch ⟨first, hfirst, hgood⟩ hinv hsettled (f := clearLeaseRenewal) ⟨false, rfl⟩ false
      exact ⟨first, hfirst, hgood.enqueue (by simp [forgetDiscipline])⟩
  | rescheduled _ unsettled =>
      have hsettled : cell.monitor.settled ≠ [] := fun hnil => by
        have hfalse := (hinv.timers.asleep hnil).2.2.2
        rw [unsettled] at hfalse
        cases hfalse
      exact Forgets.touch ⟨first, hfirst, hgood⟩ hinv hsettled (scheduleLeaseRenewal_timer _) false
  | ran _ monitor taken =>
      refine ⟨first, hfirst, ?_⟩
      cases taken with
      | begun action taken => exact hgood.begin hsound taken
      | answered respond action taken => exact hgood.answer hsound taken
      | resumed action taken => exact hgood.resume hsound taken

/-- A change of an entry adds to its history. -/
theorem CellChange.history (hinv : CellInvariant binding start cell)
    (hchange : CellChange binding a id (some cell) (some cell')) :
    ∃ more, cell'.monitor.history = cell.monitor.history ++ more := by
  cases hchange with
  | same => exact ⟨[], by simp⟩
  | queued => exact ⟨[], by simp [Monitor.history, Monitor.enqueue]⟩
  | fired => exact ⟨[], by simp [Monitor.history, Monitor.enqueue, Monitor.touch]⟩
  | rescheduled => exact ⟨[], by simp [Monitor.history, Monitor.touch]⟩
  | ran _ monitor taken =>
      obtain ⟨-, ticket, op, resumed, made, hturn, -⟩ := taken.advanced hinv.unstarted hinv.good
      rcases hturn.history_append with ⟨hhistory, -⟩ | ⟨own, q, next, answer, -, -, hhistory⟩
      · exact ⟨_, hhistory⟩
      · exact ⟨_, hhistory⟩

/-- A turn that deletes nothing leaves the tally. -/
theorem tally_of_newMarks {m m' : CallMonitor} {more : CallHistory} (hhistory : m'.history = m.history ++ more)
    (hnone : (newMarks m m').any forgets = false) : tally .forgets m'.history = tally .forgets m.history := by
  have hmore : newMarks m m' = more := by
    rw [newMarks, hhistory, List.drop_left]
  have hzero : tally .forgets more = 0 := by
    apply List.countP_eq_zero.mpr
    intro mark hmem
    obtain ⟨entry, hentry, rfl⟩ := List.mem_map.mp hmem
    have hnot := List.any_eq_false.mp (hmore ▸ hnone) entry hentry
    unfold forgets at hnot
    split at hnot
    · exact absurd rfl hnot
    · rename_i hevent
      intro htallies
      unfold tallies at htallies
      split at htallies
      · rename_i q _
        cases q <;> simp [callTallies] at htallies
      · rename_i q answer _
        cases q <;> rcases answer with _ | _ | _ <;> simp [answerTallies, transitionTallies] at htallies
      · exact hevent ‹_›
      · cases htallies
  rw [hhistory]
  unfold tally trace at hzero ⊢
  rw [List.map_append, count_append, hzero, Nat.add_zero]

/-- A turn that deletes a call has taken it out of the map. -/
theorem calls_of_deleted (hstep : c.step a = some c') (hcell : c.cells id = some cell)
    (hcell' : c'.cells id = some cell') (taken : MonitorStep c.binding a id cell.monitor cell'.monitor)
    (hdeleted : (newMarks cell.monitor cell'.monitor).any forgets = true) :
    c'.calls = deleteCall c.calls cell'.monitor.state.callId := by
  have hrun {f : CallMonitor → Option CallMonitor} (h : c.cellStep id f = some c') :
      c'.calls = deleteCall c.calls cell'.monitor.state.callId := by
    obtain ⟨old, new, hold, -, rfl⟩ := cellStep_eq_some h
    rw [hcell] at hold
    obtain rfl := Option.some.inj hold
    have hnew : cell'.monitor = new := by
      obtain ⟨calls, hrunCell, -⟩ := runCell_eq c id cell new
      rw [hrunCell] at hcell'
      have hstored : (c.setCell id ⟨new, cell.renewalUnsettled || renewalFinished cell.monitor new⟩).cells id =
          some cell' := hcell'
      rw [setCell_cells_self] at hstored
      rw [← Option.some.inj hstored]
    rw [hnew] at hdeleted ⊢
    unfold runCell
    dsimp only
    rw [if_pos hdeleted]
    rfl
  cases taken with
  | begun action taken =>
      subst action
      exact hrun hstep
  | answered respond action taken =>
      subst action
      exact hrun hstep
  | resumed action taken =>
      subst action
      exact hrun hstep

/-- A call that stays in the map was not deleted in between. -/
theorem kept_change (hinv : ControllerInvariant c) (hinv' : ControllerInvariant c') (hstep : c.step a = some c')
    (hcell : c.cells id = some cell) (hcell' : c'.cells id = some cell')
    (hchange : CellChange c.binding a id (some cell) (some cell')) {callId : String} (hmem : (callId, id) ∈ c'.calls) :
    tally .forgets cell'.monitor.history = tally .forgets cell.monitor.history := by
  obtain ⟨start, hcellInv⟩ := hinv.cells id cell hcell
  obtain ⟨more, hhistory⟩ := hchange.history hcellInv
  apply tally_of_newMarks hhistory
  by_contra hdeletes
  have hdeleted := eq_true_of_ne_false hdeletes
  have hcalls : c'.calls = deleteCall c.calls cell'.monitor.state.callId := by
    have hnever (hsame : cell'.monitor.history = cell.monitor.history) : False := by
      simp [newMarks, hsame] at hdeleted
    cases hchange with
    | same => exact (hnever rfl).elim
    | queued => exact (hnever rfl).elim
    | fired => exact (hnever rfl).elim
    | rescheduled => exact (hnever rfl).elim
    | ran _ monitor taken => exact calls_of_deleted hstep hcell hcell' taken hdeleted
  have hsame : (c'.entry id).map (·.callId) = some callId := hinv'.calls (callId, id) hmem
  rw [Controller.entry, hcell'] at hsame
  rw [hcalls] at hmem
  have hne := (List.mem_filter.mp hmem).2
  simp only [decide_eq_true_eq] at hne
  exact hne (Option.some.inj hsame).symm

/-- Each call id stands once in the map. -/
theorem keys_setCall {calls : List (String × Nat)} (h : (calls.map Prod.fst).Nodup) (callId : String) (id : Nat) :
    ((setCall calls callId id).map Prod.fst).Nodup := by
  unfold setCall
  split
  · have hsame : (calls.map fun tracked => if tracked.1 = callId then (callId, id) else tracked).map Prod.fst =
        calls.map Prod.fst := by
      rw [List.map_map]
      apply List.map_congr_left
      intro tracked _
      show (if tracked.1 = callId then (callId, id) else tracked).1 = tracked.1
      split
      · rename_i heq
        exact heq.symm
      · rfl
    rw [hsame]
    exact h
  · rename_i hnone
    rw [List.map_append, List.nodup_append]
    refine ⟨h, by simp, ?_⟩
    intro key hkey other hother heq
    obtain rfl := List.mem_singleton.mp hother
    obtain ⟨tracked, hmem, rfl⟩ := List.mem_map.mp hkey
    exact hnone (List.any_eq_true.mpr ⟨tracked, hmem, by simpa using heq⟩)

theorem TrackedInvariant.step (h : TrackedInvariant c) (hinv : ControllerInvariant c) (hstep : c.step a = some c') :
    TrackedInvariant c' := by
  have hinv' := hinv.step hstep
  have houtcome := Controller.step_outcome hinv.joins hstep
  -- the cells that stay, and the one that changes
  have hupdate {id : Nat} {cell cell' : Cell} (hcell : c.cells id = some cell)
      (hcells : c'.cells = Function.update c.cells id (some cell'))
      (hchange : CellChange c.binding a id (some cell) (some cell')) (hcalls : ∀ tracked ∈ c'.calls, tracked ∈ c.calls) :
      ∀ tracked ∈ c'.calls, ∀ cell₁, c'.cells tracked.2 = some cell₁ → tally .forgets cell₁.monitor.history = 0 := by
    intro tracked hmem cell₁ hcell₁
    by_cases heq : tracked.2 = id
    · have hcell' : c'.cells id = some cell' := by rw [hcells, Function.update_self]
      rw [heq, hcell'] at hcell₁
      obtain rfl := Option.some.inj hcell₁
      have hmem' : (tracked.1, id) ∈ c'.calls := heq ▸ hmem
      rw [kept_change hinv hinv' hstep hcell hcell' hchange hmem']
      exact h.kept tracked (hcalls tracked hmem) cell (heq ▸ hcell)
    · rw [hcells, Function.update_of_ne heq] at hcell₁
      exact h.kept tracked (hcalls tracked hmem) cell₁ hcell₁
  constructor
  · rw [houtcome.binding]
    apply cell_step hinv hstep (P := fun _ cell => Forgets c.binding cell)
    · exact fun id entry hunstarted => ⟨entry, hunstarted, Discipline.good_opened (forgetDiscipline_sound hunstarted)⟩
    · exact fun id start cell cell' _ hcellInv hchange hforgets => hforgets.change hcellInv hchange
    · exact h.cells
  · cases houtcome.effect with
    | same cells count calls => exact calls ▸ h.keys
    | changed id cell cell' found cells count calls change => exact calls ▸ h.keys
    | forgot id cell cell' found cells count emitted calls change =>
        rw [calls]
        exact h.keys.sublist (List.filter_sublist.map Prod.fst)
    | opened entry unstarted cells count calls claims =>
        rw [calls]
        exact keys_setCall h.keys _ _
  · cases houtcome.effect with
    | same cells count calls =>
        rw [cells, calls]
        exact h.kept
    | changed id cell cell' found cells count calls change =>
        exact hupdate found cells change fun tracked hmem => calls ▸ hmem
    | forgot id cell cell' found cells count emitted calls change =>
        apply hupdate found cells change
        intro tracked hmem
        rw [calls] at hmem
        exact (List.mem_filter.mp hmem).1
    | opened entry unstarted cells count calls claims =>
        intro tracked hmem cell hcell
        rw [cells] at hcell
        by_cases heq : tracked.2 = c.cellCount
        · rw [heq, Function.update_self] at hcell
          obtain rfl := Option.some.inj hcell
          rfl
        · rw [Function.update_of_ne heq] at hcell
          rw [calls] at hmem
          rcases mem_setCall hmem with rfl | hold
          · exact absurd rfl heq
          · exact h.kept tracked hold cell hcell

theorem trackedInvariant_reached {allowed : Controller → Action → Prop}
    (h : Reaches Controller.step allowed (Controller.initial binding) c) : TrackedInvariant c := by
  apply h.invariant_reached
  · exact ⟨by simp [Controller.initial], by simp [Controller.initial], by simp [Controller.initial]⟩
  · exact fun _ _ _ hrun htracked _ hstep => htracked.step (controllerInvariant_reached hrun) hstep

/-- What a settled operation owes, in the history up to now. -/
theorem TrackedInvariant.settled (h : TrackedInvariant c) (hcell : c.cells id = some cell)
    {episode : Episode callInterface CallOp Decision} (hmem : episode ∈ cell.monitor.settled) :
    ∃ before entry more, Settled episode.op before episode.marks episode.result entry ∧
      cell.monitor.history = upTo before episode.op episode.marks ++ more := by
  obtain ⟨first, -, hgood⟩ := h.cells id cell hcell
  obtain ⟨earlier, after, hsplit⟩ := List.append_of_mem hmem
  obtain ⟨-, entry, hsettled⟩ := hgood.episodes earlier episode after hsplit
  obtain ⟨more, hhistory⟩ := (Monitor.Made.finished earlier episode after hsplit).history
  exact ⟨historyOf earlier, entry, more, hsettled, hhistory⟩

/-- An entry that has been deleted is not in the map. -/
theorem TrackedInvariant.untracked (h : TrackedInvariant c) (hcell : c.cells id = some cell)
    (hdeleted : 0 < tally .forgets cell.monitor.history) (callId : String) : (callId, id) ∉ c.calls := by
  intro hmem
  have hzero := h.kept (callId, id) hmem cell hcell
  omega

/-- A call whose PBX end reports it as gone has left the map. -/
theorem TrackedInvariant.ended (h : TrackedInvariant c) (hinv : ControllerInvariant c) {ticket : Nat}
    {decision : Decision} (hcell : c.cells id = some cell) (hagenda : (ticket, .pbxEnd) ∈ cell.monitor.agenda)
    (houtcome : c.outcome id ticket = some (.ok decision)) (hgone : Gone decision.reason) (callId : String) :
    (callId, id) ∉ c.calls := by
  obtain ⟨episode, hmem, -, hop, hresult⟩ := episode_of_outcome hinv hcell hagenda houtcome
  obtain ⟨before, entry, more, hsettled, hhistory⟩ := h.settled hcell hmem
  apply h.untracked hcell
  have hforgot := hsettled.ended hop decision hresult hgone
  rw [hhistory]
  exact tally_mono .forgets hforgot

/-- The condition on the answers under which the `catch` block of `#startCall` runs to its end. -/
def StartGranted : AnswerCondition := fun _ op q answer =>
  op = .start → deniesAnswer q answer = false

/-- A `#startCall` that does not report `call_active` has deleted its call, when its `catch` block is denied nothing. -/
theorem TrackedInvariant.started (h : TrackedInvariant c) (hinv : ControllerInvariant c)
    (hkept : ∀ id cell, c.cells id = some cell → AnswersKept StartGranted cell) {result : Except String Decision}
    (hcell : c.cells id = some cell) (houtcome : c.outcome id 0 = some result) :
    ∃ decision, result = .ok decision ∧
      (decision.reason = "call_active" ∨ ∀ callId, (callId, id) ∉ c.calls) := by
  obtain ⟨start, hcellInv⟩ := hinv.cells id cell hcell
  obtain ⟨rest, hhead, -⟩ := hcellInv.agenda
  have hagenda : (0, CallOp.start) ∈ cell.monitor.agenda := by
    rw [hhead]
    exact List.mem_cons_self
  obtain ⟨episode, hmem, -, hop, hresult⟩ := episode_of_outcome hinv hcell hagenda houtcome
  obtain ⟨before, entry, more, hsettled, hhistory⟩ := h.settled hcell hmem
  obtain ⟨decision, hdecision, hcases⟩ := hsettled.started hop
  refine ⟨decision, hresult.symm.trans hdecision, ?_⟩
  rcases hcases with hactive | hforgot | ⟨mark, hmark, hdenies⟩
  · exact .inl hactive
  · right
    apply h.untracked hcell
    rw [hhistory]
    exact tally_mono .forgets hforgot
  · obtain ⟨first, second, hsplit⟩ := List.append_of_mem hmark
    have hanswers := hkept id cell hcell (before ++ first.map (Prod.mk episode.op)) episode.op mark
      (second.map (Prod.mk episode.op) ++ more) (by rw [hhistory, upTo, hsplit]; simp)
    unfold denies at hdenies
    split at hdenies
    · rename_i q answer hevent
      rw [hanswers q answer hevent hop] at hdenies
      cases hdenies
    · cases hdenies

end Tracked

end Connector
end VoiceAssistants
