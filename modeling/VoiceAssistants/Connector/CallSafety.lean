import VoiceAssistants.Connector.CallRules

/-!
# Every operation on a call keeps its contract

`safe_startCall`, `safe_handleMediaFailure`, `safe_handleCallHangup`, `safe_drain`, `safe_endCall` and
`safe_renewLease` prove the contract of `callDiscipline` for the body of each operation, whatever its
dependencies return or throw; `callDiscipline_sound` puts them together.
-/

namespace VoiceAssistants
namespace Connector

open Async ThreeCx

variable {binding : TenantBinding} {start entry : Entry} {op : CallOp} {before : CallHistory}
  {own : List CallMark}

/-! ## Operations that end a call -/

theorem Tallied.denials {own' : List CallMark} {f : Count → Bool} (h : Tallied own own' f) :
    denials own' = Connector.denials own + (if f .endingRefused then 1 else 0) +
      if f .endingThrew then 1 else 0 := by
  unfold Connector.denials
  rw [h .endingRefused, h .endingThrew]
  omega

/-- An operation that clears the timer and ends without an exception. -/
theorem Concluded.of_clears {result : Decision} (hop : op.Clears)
    (hdenied : entry.state = .active → 0 < denials own) :
    Concluded op before own (.ok result) entry := by
  refine ⟨by simp, ?_, fun _ => hdenied, ?_⟩
  · rintro rfl
    exact hop.elim
  · rintro rfl
    exact hop.elim

/-- An operation that clears the timer and rethrows what `transitionCall` threw. -/
theorem post_raised {error : String} (hop : op.Clears) (hready : Ready start op before own entry)
    (hraised : 0 < count .transitionThrew own) (hdenied : entry.state = .active → 0 < denials own) :
    (callDiscipline binding start).post op before (.error error) entry own := by
  refine ⟨hready.facts, hready.stops, fun _ _ => hraised, ?_, fun _ => hdenied, ?_⟩
  · rintro rfl
    exact hop.elim
  · rintro rfl
    exact hop.elim

/-- The fallback of a call that is ending. -/
theorem Fenced.of_ending {state : CallState} (hop : op ≠ .renew)
    (hending : 0 < tally .endingGranted (upTo before op own)) : Fenced op before own state :=
  ⟨.inl hending, fun hrenew => absurd hrenew hop⟩

/-- The live states of an entry. -/
theorem Progress.live_cases {state : CallState} {history : CallHistory} (h : Progress state history)
    (hlive : ¬ state.Terminal) :
    state = .claimed ∨ state = .connecting ∨ state = .active ∨ state = .ending := by
  have huntransferred := h.untransferred
  unfold CallState.Terminal at hlive
  cases state <;> simp at hlive huntransferred ⊢

/-- `#transition(entry, "ending")` from a live state. -/
theorem mayMove_ending (hready : Ready start op before own entry) (hlive : ¬ entry.state.Terminal)
    (hnot : entry.state ≠ .ending)
    (hclaimed : entry.state = .claimed → Legal op own .claimed .ending)
    (hundenied : op.Clears → denials own = 0) : MayMove op own entry .ending := by
  refine ⟨hlive, ?_, by simp, by simp [CallState.Terminal], by simp [CallState.Terminal], by simp, hundenied⟩
  rcases hready.facts.progress.live_cases hlive with h | h | h | h
  · rw [h]
    exact hclaimed h
  · rw [h]
    exact .inl (by decide)
  · rw [h]
    exact .inl (by decide)
  · exact absurd h hnot

/-- A transition of an ending call to a terminal state. -/
theorem mayMove_terminal {newState : CallState} (hnew : newState.Terminal) (hstate : entry.state = .ending)
    (hreleased : entry.closeMedia = none ∧ entry.dispatchId = none)
    (hconfirmed : op ≠ .pbxEnd → Confirmed op own) (hundenied : op.Clears → denials own = 0) :
    MayMove op own entry newState := by
  refine ⟨?_, ?_, ?_, fun _ => hconfirmed, fun _ => hreleased, ?_, hundenied⟩
  · simp [hstate, CallState.Terminal]
  · rw [hstate]
    rcases hnew with rfl | rfl
    · exact .inl (by decide)
    · exact .inl (by decide)
  · rcases hnew with rfl | rfl <;> simp
  · rcases hnew with rfl | rfl <;> simp

/-- The facts an operation that ends a call starts from. -/
theorem Ready.opened (op : CallOp) (hop : op ≠ .start) (h : CallFacts start entry before) :
    Ready start op before [] entry :=
  ⟨by simpa using h, trivial, fun heq => absurd heq hop⟩

/-- Clearing the timer is allowed as long as the end of the call was not denied. -/
theorem writeKept_clear (hundenied : op.Clears → denials own = 0) :
    WriteKept op own entry (clearLeaseRenewal entry) := by
  refine ⟨fun _ harmed => ?_, fun _ => rfl, fun hclears hdenied => ?_⟩
  · cases harmed
  · have := hundenied hclears
    omega

/-- `entry.state === "ending" || await this.#transition(entry, "ending")`. -/
theorem safe_ensureEnding {post : Post callInterface Bool}
    (hready : Ready start op before own entry) (hlive : ¬ entry.state.Terminal)
    (hclaimed : entry.state = .claimed → Legal op own .claimed .ending) (hundenied : denials own = 0)
    (hending : ∀ entry' own', entry'.state = .ending → denials own' = 0 → Ready start op before own' entry' →
      post (.ok true) entry' own')
    (hrefused : ∀ entry' own', 0 < denials own' → Ready start op before own' entry' →
      post (.ok false) entry' own')
    (hthrew : ∀ error entry' own', 0 < denials own' → 0 < count .transitionThrew own' →
      Ready start op before own' entry' → post (.error error) entry' own') :
    (ensureEnding binding).Safe ((callDiscipline binding start).contract op before) post entry own := by
  unfold ensureEnding
  rw [Program.safe_get_bind]
  by_cases hstate : entry.state = .ending
  · rw [if_pos hstate]
    exact hending entry own hstate hundenied hready
  · rw [if_neg hstate]
    refine safe_transition hready (mayMove_ending hready hlive hstate hclaimed fun _ => hundenied) ?_ ?_ ?_
    · intro entry' own' _ htallied hready'
      refine hending _ own' rfl ?_ hready'
      rw [htallied.denials, hundenied]
      rfl
    · intro entry' own' _ htallied hready'
      refine hrefused entry' own' ?_ hready'
      rw [htallied.denials, hundenied]
      decide
    · intro error entry' own' _ htallied hready'
      refine hthrew error entry' own' ?_ ?_ hready'
      · rw [htallied.denials, hundenied]
        simp [transitionTallies]
      · rw [htallied .transitionThrew]
        exact Nat.succ_pos _

/-- The rest of an operation after the call was marked as ending: clean up, then go on if nothing is held. -/
theorem safe_cleaned {f : Bool → CallProgram Decision} (hready : Ready start op before own entry)
    (hstate : entry.state ≠ .active) (hundenied : op.Clears → denials own = 0)
    (hnext : ∀ clean entry' own', entry'.state = entry.state → denials own' = denials own →
      (clean = true → entry'.closeMedia = none ∧ entry'.dispatchId = none) →
      (∀ k, k ∉ [Count.closeCalls, .closed, .stopCalls, .stopped] → count k own' = count k own) →
      Ready start op before own' entry' →
      (f clean).Safe ((callDiscipline binding start).contract op before)
        ((callDiscipline binding start).post op before) entry' own') :
    ((cleanup binding).awaited >>= f).Safe ((callDiscipline binding start).contract op before)
      ((callDiscipline binding start).post op before) entry own := by
  rw [Program.safe_bind]
  refine safe_cleanup hready (fun hactive => absurd hactive hstate) hundenied ?_
  intro clean entry' own' hcleaned hready'
  refine hnext clean entry' own' hcleaned.state ?_ hcleaned.clean hcleaned.counts hready'
  unfold denials
  rw [hcleaned.counts _ (by simp), hcleaned.counts _ (by simp)]

/-- The last step of an operation that ends a call: the terminal transition, and leaving the map. -/
theorem safe_finish {newState : CallState} {done refused : String} (hop : op.Clears)
    (hready : Ready start op before own entry) (hmay : MayMove op own entry newState)
    (hnew : newState.Terminal) (hstate : entry.state ≠ .active) :
    (do
      if ← (transition binding newState none).awaited then
        forget
        decision done
      else decision refused : CallProgram Decision).Safe
        ((callDiscipline binding start).contract op before) ((callDiscipline binding start).post op before)
        entry own := by
  rw [Program.safe_bind]
  refine safe_transition hready hmay ?_ ?_ ?_
  · intro entry' own' _ _ hready'
    refine safe_forget hready' (.inl hnew) (.of_clears hop ?_)
    intro hactive
    have : newState = .active := hactive
    subst this
    simp [CallState.Terminal] at hnew
  · intro entry' own' hrely _ hready'
    obtain ⟨timer, rfl⟩ := hrely.timer
    exact safe_decision hready' (.of_clears hop fun hactive => absurd hactive hstate)
  · intro error entry' own' hrely htallied hready'
    obtain ⟨timer, rfl⟩ := hrely.timer
    refine post_raised hop hready' ?_ fun hactive => absurd hactive hstate
    rw [htallied .transitionThrew]
    exact Nat.succ_pos _

/-- `handleMediaFailure` keeps its contract. -/
theorem safe_handleMediaFailure {reason : String} (h : CallFacts start entry before) :
    (handleMediaFailure binding reason).Safe
      ((callDiscipline binding start).contract (.mediaFailure reason) before)
      ((callDiscipline binding start).post (.mediaFailure reason) before) entry [] := by
  have hready := (Ready.opened (.mediaFailure reason) (by simp) h).clear
  unfold handleMediaFailure
  rw [Program.safe_modify_bind]
  refine ⟨writeKept_clear fun _ => rfl, ?_⟩
  rw [Program.safe_get_bind]
  split
  · rename_i hterminal
    refine safe_decision hready (.of_clears trivial fun hactive => ?_)
    rw [hactive] at hterminal
    simp [CallState.Terminal] at hterminal
  · rename_i hlive
    rw [Program.safe_bind]
    refine safe_ensureEnding hready hlive (fun _ => .inr ⟨rfl, rfl, .inr ⟨trivial, rfl⟩⟩) rfl ?_ ?_ ?_
    · -- the call is ending
      intro entry₁ own₁ hstate₁ hden₁ hready₁
      refine safe_cleaned hready₁ (by simp [hstate₁]) (fun _ => hden₁) ?_
      intro clean entry₂ own₂ hstate₂ hden₂ hclean hcounts hready₂
      rw [hstate₁] at hstate₂
      cases clean with
      | false => exact safe_decision hready₂ (.of_clears trivial (by simp [hstate₂]))
      | true =>
          have hreleased := hclean rfl
          simp only [if_true]
          rw [Program.safe_bind]
          refine safe_pbxFallback hready₂ hreleased (.of_ending (by simp) (hready₂.facts.progress.ending hstate₂)) ?_
          intro complete entry₃ own₃ hrely htallied hready₃
          obtain ⟨timer, rfl⟩ := hrely.timer
          cases complete with
          | false => exact safe_decision hready₃ (.of_clears trivial (by simp [hstate₂]))
          | true =>
              refine safe_finish trivial hready₃ (mayMove_terminal (.inr rfl) hstate₂ hreleased ?_ ?_)
                (.inr rfl) (by simp [hstate₂])
              · intro _
                left
                rw [htallied .fallbackTrue]
                simp
              · intro _
                rw [htallied.denials, hden₂, hden₁]
                simp
    · exact fun entry' own' hdenied hready' => safe_decision hready' (.of_clears trivial fun _ => hdenied)
    · exact fun error entry' own' hdenied hthrew hready' => post_raised trivial hready' hthrew fun _ => hdenied

/-- `handleCallHangup` keeps its contract: the fallback's outcome does not stop it. -/
theorem safe_handleCallHangup {reason : String} (h : CallFacts start entry before) :
    (handleCallHangup binding reason).Safe ((callDiscipline binding start).contract (.hangup reason) before)
      ((callDiscipline binding start).post (.hangup reason) before) entry [] := by
  have hready := (Ready.opened (.hangup reason) (by simp) h).clear
  unfold handleCallHangup
  rw [Program.safe_modify_bind]
  refine ⟨writeKept_clear fun _ => rfl, ?_⟩
  rw [Program.safe_get_bind]
  split
  · rename_i hterminal
    refine safe_decision hready (.of_clears trivial fun hactive => ?_)
    rw [hactive] at hterminal
    simp [CallState.Terminal] at hterminal
  · rename_i hlive
    rw [Program.safe_bind]
    refine safe_ensureEnding hready hlive (fun _ => .inr ⟨rfl, rfl, .inr ⟨trivial, rfl⟩⟩) rfl ?_ ?_ ?_
    · intro entry₁ own₁ hstate₁ hden₁ hready₁
      refine safe_cleaned hready₁ (by simp [hstate₁]) (fun _ => hden₁) ?_
      intro clean entry₂ own₂ hstate₂ hden₂ hclean hcounts hready₂
      rw [hstate₁] at hstate₂
      cases clean with
      | false => exact safe_decision hready₂ (.of_clears trivial (by simp [hstate₂]))
      | true =>
          have hreleased := hclean rfl
          simp only [if_true]
          rw [Program.safe_bind]
          refine safe_pbxFallback hready₂ hreleased (.of_ending (by simp) (hready₂.facts.progress.ending hstate₂)) ?_
          intro complete entry₃ own₃ hrely htallied hready₃
          obtain ⟨timer, rfl⟩ := hrely.timer
          -- `hangupComplete` is not looked at: both outcomes go on to `ended`
          refine safe_finish trivial hready₃ (mayMove_terminal (.inl rfl) hstate₂ hreleased ?_ ?_)
            (.inl rfl) (by simp [hstate₂])
          · intro _
            cases complete with
            | true =>
                left
                rw [htallied .fallbackTrue]
                simp
            | false =>
                right
                refine ⟨trivial, ?_⟩
                rw [htallied .fallbackFailed]
                simp
          · intro _
            rw [htallied.denials, hden₂, hden₁]
            cases complete <;> simp
    · exact fun entry' own' hdenied hready' => safe_decision hready' (.of_clears trivial fun _ => hdenied)
    · exact fun error entry' own' hdenied hthrew hready' => post_raised trivial hready' hthrew fun _ => hdenied

/-- What the drain of `shutdown` does once the call is `claimed` or `ending`. -/
theorem safe_drainRest (hready : Ready start .drain before own entry)
    (hstate : entry.state = .claimed ∨ entry.state = .ending) (hundenied : denials own = 0) :
    (do
      if ← (cleanup binding).awaited then
        if ← pbxFallback fun entry => fallbackRequest binding entry "connector_shutdown" then
          if ← (transition binding .ended none).awaited then
            forget
            decision "call_ended_for_shutdown"
          else decision "shutdown_state_update_failed"
        else decision "shutdown_fallback_incomplete"
      else decision "shutdown_cleanup_incomplete" : CallProgram Decision).Safe
        ((callDiscipline binding start).contract .drain before)
        ((callDiscipline binding start).post .drain before) entry own := by
  have hnot : entry.state ≠ .active := by
    rcases hstate with h | h <;> simp [h]
  refine safe_cleaned hready hnot (fun _ => hundenied) ?_
  intro clean entry₁ own₁ hstate₁ hden₁ hclean hcounts hready₁
  cases clean with
  | false => exact safe_decision hready₁ (.of_clears trivial fun hactive => absurd (hstate₁ ▸ hactive) hnot)
  | true =>
      have hreleased := hclean rfl
      have hfenced : Fenced .drain before own₁ entry₁.state := by
        rcases hstate with h | h
        · exact ⟨.inr (.inl ⟨rfl, hstate₁.trans h⟩), by simp⟩
        · exact .of_ending (by simp) (hready₁.facts.progress.ending (hstate₁.trans h))
      simp only [if_true]
      rw [Program.safe_bind]
      refine safe_pbxFallback hready₁ hreleased hfenced ?_
      intro complete entry₂ own₂ hrely htallied hready₂
      obtain ⟨timer, rfl⟩ := hrely.timer
      have hnot₁ : entry₁.state ≠ .active := hstate₁ ▸ hnot
      cases complete with
      | false => exact safe_decision hready₂ (.of_clears trivial fun hactive => absurd hactive hnot₁)
      | true =>
          have hconfirmed : Confirmed .drain own₂ := by
            left
            rw [htallied .fallbackTrue]
            simp
          have hundenied₂ : denials own₂ = 0 := by
            rw [htallied.denials, hden₁, hundenied]
            simp
          refine safe_finish trivial hready₂ ?_ (.inl rfl) hnot₁
          rcases hstate with h | h
          · refine ⟨?_, .inl ?_, by simp, fun _ _ => hconfirmed, fun _ => hreleased, by simp,
              fun _ => hundenied₂⟩
            · simp [hstate₁, h, CallState.Terminal]
            · simp only [hstate₁, h]
              decide
          · exact mayMove_terminal (.inl rfl) (hstate₁.trans h) hreleased (fun _ => hconfirmed)
              fun _ => hundenied₂

/-- The drain of `shutdown` keeps its contract. -/
theorem safe_drain (h : CallFacts start entry before) :
    (drain binding).Safe ((callDiscipline binding start).contract .drain before)
      ((callDiscipline binding start).post .drain before) entry [] := by
  have hready := (Ready.opened .drain (by simp) h).clear
  unfold drain
  rw [Program.safe_modify_bind]
  refine ⟨writeKept_clear fun _ => rfl, ?_⟩
  rw [Program.safe_get_bind]
  split
  · rename_i hterminal
    refine safe_forget hready (.inl hterminal) (.of_clears trivial fun hactive => ?_)
    rw [hactive] at hterminal
    simp [CallState.Terminal] at hterminal
  · rename_i hlive
    rw [Program.safe_bind]
    split
    · -- connecting or active: the move to `ending` comes first
      rename_i hmoves
      refine safe_transition hready
        (mayMove_ending hready hlive hmoves.2 (fun hclaimed => absurd hclaimed hmoves.1) fun _ => rfl) ?_ ?_ ?_
      · intro entry₁ own₁ _ htallied hready₁
        refine safe_drainRest hready₁ (.inr rfl) ?_
        rw [htallied.denials]
        rfl
      · intro entry₁ own₁ _ htallied hready₁
        refine safe_decision hready₁ (.of_clears trivial fun _ => ?_)
        rw [htallied.denials]
        decide
      · intro error entry₁ own₁ _ htallied hready₁
        refine post_raised trivial hready₁ ?_ fun _ => ?_
        · rw [htallied .transitionThrew]
          exact Nat.succ_pos _
        · rw [htallied.denials]
          simp [transitionTallies]
    · rename_i hstays
      refine safe_drainRest hready ?_ rfl
      by_contra hneither
      exact hstays (not_or.mp hneither)

/-- The `try` block of the PBX end keeps the contract. -/
theorem safe_endCallBody (h : CallFacts start entry before) :
    (endCallBody binding).Safe ((callDiscipline binding start).contract .pbxEnd before)
      ((callDiscipline binding start).post .pbxEnd before) entry [] := by
  have hready := (Ready.opened .pbxEnd (by simp) h).clear
  unfold endCallBody
  rw [Program.safe_modify_bind]
  refine ⟨writeKept_clear fun _ => rfl, ?_⟩
  rw [Program.safe_get_bind]
  split
  · rename_i hterminal
    refine safe_decision hready (.of_clears trivial fun hactive => ?_)
    rw [hactive] at hterminal
    simp [CallState.Terminal] at hterminal
  · rename_i hlive
    split
    · -- never connected: there is nothing to clean up
      rename_i hclaimed
      have hclaimed' : entry.state = .claimed := hclaimed
      have hnone := hready.facts.undispatched hclaimed
      obtain ⟨hbridges, hdispatches, hattached, hdispatched, -⟩ := hready.facts.resources
      refine safe_finish trivial hready ⟨hlive, .inl ?_, by simp, by simp, fun _ => ?_, by simp, fun _ => rfl⟩
        (.inl rfl) (by simp [hclaimed])
      · rw [hclaimed]
        decide
      · constructor
        · by_contra hne
          rw [if_neg hne] at hbridges
          omega
        · by_contra hne
          rw [if_neg hne] at hdispatches
          omega
    · rename_i hclaimed
      rw [Program.safe_bind]
      refine safe_ensureEnding hready hlive (fun heq => absurd heq hclaimed) rfl ?_ ?_ ?_
      · intro entry₁ own₁ hstate₁ hden₁ hready₁
        refine safe_cleaned hready₁ (by simp [hstate₁]) (fun _ => hden₁) ?_
        intro clean entry₂ own₂ hstate₂ hden₂ hclean hcounts hready₂
        rw [hstate₁] at hstate₂
        cases clean with
        | false => exact safe_decision hready₂ (.of_clears trivial (by simp [hstate₂]))
        | true =>
            refine safe_finish trivial hready₂ (mayMove_terminal (.inl rfl) hstate₂ (hclean rfl) ?_ ?_)
              (.inl rfl) (by simp [hstate₂])
            · exact fun hne => absurd rfl hne
            · exact fun _ => hden₂.trans hden₁
      · exact fun entry' own' hdenied hready' => safe_decision hready' (.of_clears trivial fun _ => hdenied)
      · exact fun error entry' own' hdenied hthrew hready' =>
          post_raised trivial hready' hthrew fun _ => hdenied

/-- The PBX end keeps its contract: an exception becomes a decision. -/
theorem safe_endCall (h : CallFacts start entry before) :
    (endCall binding).Safe ((callDiscipline binding start).contract .pbxEnd before)
      ((callDiscipline binding start).post .pbxEnd before) entry [] := by
  unfold endCall
  refine (Program.safe_attempt_bind _ _ _ _).mpr ((safe_endCallBody h).imp ?_)
  rintro (error | result) entry' own' ⟨hfacts, hstops, hconcluded⟩
  · refine safe_decision ⟨hfacts, hstops, by simp⟩ (.of_clears trivial (hconcluded.denied trivial))
  · exact ⟨hfacts, hstops, hconcluded⟩

/-! ## Lease renewal -/

/-- The facts once a renewal was reported lost and `leaseLost` is set. -/
theorem CallFacts.lose {input : RenewRequest} {answer : Except String Bool} {seen : Entry}
    (h : CallFacts start entry (upTo before op own))
    (hloss : answerTallies .leaseLosses seen (.renewCallLease input) answer = true) (failures : Nat) :
    CallFacts start { entry with consecutiveRenewFailures := failures, leaseLost := true }
      (upTo before op (own ++ [⟨seen, .answered (.renewCallLease input) answer⟩])) := by
  have hzero : ∀ k, k ≠ .leaseLosses →
      tallies k ⟨seen, .answered (.renewCallLease input) answer⟩ = false := by
    intro k hk
    rcases answer with error | _ | _ <;> simp [tallies, answerTallies, hk]
  have hone : tallies .leaseLosses ⟨seen, .answered (.renewCallLease input) answer⟩ = true := hloss
  refine ⟨h.same, h.progress.silent (silent_answered _ (by simp)), ?_, ?_, h.released, ?_, by simp, ?_⟩
  · refine h.resources.of_counts rfl rfl fun k hk => ?_
    have hk' : k ≠ .leaseLosses := by
      rintro rfl
      simp at hk
    simp [hzero k hk']
  · simpa [hzero] using h.undispatched
  · simpa [hzero] using h.forgotten
  · refine ⟨fun _ => ?_, fun _ => rfl⟩
    rw [tally_upTo, count_append, count_cons, if_pos hone]
    omega

/-- The count of failures is not part of the facts. -/
theorem Ready.failures (h : Ready start op before own entry) (failures : Nat) :
    Ready start op before own { entry with consecutiveRenewFailures := failures } :=
  ⟨⟨h.facts.same, h.facts.progress, h.facts.resources.of_counts rfl rfl fun _ _ => rfl,
    h.facts.undispatched, h.facts.released, h.facts.forgotten, h.facts.held, h.facts.lost⟩, h.stops, h.fresh⟩

/-- A renewal that did not report a loss. -/
theorem Concluded.of_kept {result : Decision} (hkept : count .leaseLosses own = 0) :
    Concluded .renew before own (.ok result) entry := by
  refine ⟨by simp, by simp, fun hclears => hclears.elim, fun _ _ hlost => ?_⟩
  omega

/-- A renewal that reported a loss and released the resources. -/
theorem Concluded.of_lost {result : Decision} (hthrew : count .endingThrew own = 0)
    (hattempts : tally .leaseLosses before = 0 → 0 < count .closeCalls own ∧ 0 < count .stopCalls own) :
    Concluded .renew before own (.ok result) entry :=
  ⟨by simp, by simp, fun hclears => hclears.elim, fun _ hfirst _ => ⟨fun _ => hthrew, fun _ => hattempts hfirst⟩⟩

/-- A lost lease after the move to `ending` was answered. -/
theorem safe_leaseLostRest {transitioned : Bool} (hready : Ready start .renew before own entry)
    (hlost : entry.leaseLost = true)
    (hstate : entry.state = if transitioned then .ending else .active)
    (hthrew : count .endingThrew own = 0) (hgranted : transitioned = true → count .endingRefused own = 0)
    (hrefused : transitioned = false → 0 < count .endingRefused own)
    (hheld : tally .leaseLosses before = 0 → entry.closeMedia ≠ none ∧ entry.dispatchId ≠ none) :
    (do
      if ← (cleanup binding).awaited then
        if ← pbxFallback fun entry => fallbackRequest binding entry "call_claim_lease_lost" then
          if transitioned then
            if ← (transition binding .ended none).awaited then
              forget
              decision "call_ended_after_lease_loss"
            else decision "lease_lost_state_update_failed"
          else decision "lease_lost_state_update_failed"
        else decision "lease_lost_fallback_incomplete"
      else decision "lease_lost_cleanup_incomplete" : CallProgram Decision).Safe
        ((callDiscipline binding start).contract .renew before)
        ((callDiscipline binding start).post .renew before) entry own := by
  rw [Program.safe_bind]
  refine safe_cleanup hready (fun _ => hlost) (fun hclears => hclears.elim) ?_
  intro clean entry₁ own₁ hcleaned hready₁
  have hstate₁ := hcleaned.state.trans hstate
  have hthrew₁ : count .endingThrew own₁ = 0 := by
    rw [hcleaned.counts .endingThrew (by simp)]
    exact hthrew
  have hattempts : tally .leaseLosses before = 0 →
      0 < count .closeCalls own₁ ∧ 0 < count .stopCalls own₁ := fun hfirst =>
    ⟨hcleaned.closes (hheld hfirst).1, hcleaned.stops (hheld hfirst).2⟩
  cases clean with
  | false => exact safe_decision hready₁ (.of_lost hthrew₁ hattempts)
  | true =>
      have hreleased := hcleaned.clean rfl
      have hfenced : Fenced .renew before own₁ entry₁.state := by
        have hcount := hcleaned.counts .endingRefused (by simp)
        cases transitioned with
        | true =>
            refine ⟨.inl (hready₁.facts.progress.ending hstate₁), fun _ hpos => ?_⟩
            rw [hcount, hgranted rfl] at hpos
            exact absurd hpos (Nat.lt_irrefl 0)
        | false => exact ⟨.inr (.inr ⟨rfl, by rw [hcount]; exact hrefused rfl⟩), fun _ _ => hstate₁⟩
      simp only [if_true]
      rw [Program.safe_bind]
      refine safe_pbxFallback hready₁ hreleased hfenced ?_
      intro complete entry₂ own₂ hrely htallied hready₂
      obtain ⟨timer, rfl⟩ := hrely.timer
      have hthrew₂ : count .endingThrew own₂ = 0 := by
        rw [htallied .endingThrew, hthrew₁]
        cases complete <;> simp
      have hattempts₂ : tally .leaseLosses before = 0 →
          0 < count .closeCalls own₂ ∧ 0 < count .stopCalls own₂ := by
        intro hfirst
        obtain ⟨hcloses, hstops⟩ := hattempts hfirst
        rw [htallied .closeCalls, htallied .stopCalls]
        omega
      cases complete with
      | false => exact safe_decision hready₂ (.of_lost hthrew₂ hattempts₂)
      | true =>
          cases transitioned with
          | false => exact safe_decision hready₂ (.of_lost hthrew₂ hattempts₂)
          | true =>
              have hconfirmed : Confirmed .renew own₂ := by
                left
                rw [htallied .fallbackTrue]
                simp
              simp only [if_true]
              rw [Program.safe_bind]
              refine safe_transition hready₂ (mayMove_terminal (.inl rfl) hstate₁ hreleased
                (fun _ => hconfirmed) fun hclears => hclears.elim) ?_ ?_ ?_
              · intro entry₃ own₃ _ htallied₃ hready₃
                refine safe_forget hready₃ (.inl (.inl rfl)) (.of_lost ?_ ?_)
                · rw [htallied₃ .endingThrew, hthrew₂]
                  rfl
                · rw [htallied₃ .closeCalls, htallied₃ .stopCalls]
                  exact hattempts₂
              · intro entry₃ own₃ _ htallied₃ hready₃
                refine safe_decision hready₃ (.of_lost ?_ ?_)
                · rw [htallied₃ .endingThrew, hthrew₂]
                  rfl
                · rw [htallied₃ .closeCalls, htallied₃ .stopCalls]
                  exact hattempts₂
              · intro error entry₃ own₃ _ htallied₃ hready₃
                refine ⟨hready₃.facts, hready₃.stops, fun _ _ => ?_, by simp, fun hclears => hclears.elim, ?_⟩
                · rw [htallied₃ .transitionThrew]
                  exact Nat.succ_pos _
                · intro _ hfirst _
                  rw [htallied₃ .endingThrew, htallied₃ .closeCalls, htallied₃ .stopCalls, hthrew₂]
                  exact ⟨fun _ => rfl, fun _ => hattempts₂ hfirst⟩

/-- A lost lease. -/
theorem safe_leaseLost
    (hready : Ready start .renew before own { entry with leaseLost := true })
    (hstate : entry.state = .active) (hclose : count .closeCalls own = 0)
    (hthrew : count .endingThrew own = 0) (hrefused : count .endingRefused own = 0)
    (hheld : tally .leaseLosses before = 0 → entry.closeMedia ≠ none ∧ entry.dispatchId ≠ none) :
    (leaseLost binding).Safe ((callDiscipline binding start).contract .renew before)
      ((callDiscipline binding start).post .renew before) entry own := by
  have hready' := hready.clear
  have hmay : MayMove .renew own (clearLeaseRenewal { entry with leaseLost := true }) .ending := by
    refine mayMove_ending hready' ?_ ?_ ?_ fun hclears => hclears.elim
    · show ¬ entry.state.Terminal
      simp [hstate, CallState.Terminal]
    · show entry.state ≠ .ending
      simp [hstate]
    · intro hclaimed
      have hclaimed' : entry.state = .claimed := hclaimed
      rw [hstate] at hclaimed'
      cases hclaimed'
  unfold leaseLost
  rw [Program.safe_modify_bind, Program.safe_modify_bind, Program.safe_bind]
  refine ⟨⟨fun _ => id, fun hne => absurd rfl hne, fun hclears => hclears.elim⟩,
    writeKept_clear fun hclears => hclears.elim, safe_transition hready' hmay ?_ ?_ ?_⟩
  · intro entry₁ own₁ hrely htallied hready₁
    obtain ⟨timer, rfl⟩ := hrely.timer
    refine safe_leaseLostRest hready₁ rfl rfl ?_ (fun _ => ?_) (by simp) hheld
    · rw [htallied .endingThrew, hthrew]
      rfl
    · rw [htallied .endingRefused, hrefused]
      rfl
  · intro entry₁ own₁ hrely htallied hready₁
    obtain ⟨timer, rfl⟩ := hrely.timer
    refine safe_leaseLostRest hready₁ rfl hstate ?_ (by simp) (fun _ => ?_) hheld
    · rw [htallied .endingThrew, hthrew]
      rfl
    · rw [htallied .endingRefused]
      exact Nat.succ_pos _
  · -- the move to `ending` threw: nothing after it runs
    intro error entry₁ own₁ hrely htallied hready₁
    refine ⟨hready₁.facts, hready₁.stops, fun _ _ => ?_, by simp, fun hclears => hclears.elim, ?_⟩
    · rw [htallied .transitionThrew]
      exact Nat.succ_pos _
    · intro _ _ _
      rw [htallied .endingThrew, htallied .closeCalls, hclose]
      simp [transitionTallies]

/-- `#renewLease` keeps its contract. -/
theorem safe_renewLease (h : CallFacts start entry before) :
    (renewLease binding).Safe ((callDiscipline binding start).contract .renew before)
      ((callDiscipline binding start).post .renew before) entry [] := by
  have hready := Ready.opened .renew (by simp) h
  unfold renewLease
  rw [Program.safe_get_bind]
  split
  · exact safe_decision hready (.of_kept rfl)
  · rename_i hactive
    have hstate : entry.state = .active := not_not.mp hactive
    have hcalled := hready.called (q := .renewCallLease (renewRequest binding entry)) (by simp) (by simp)
    have hheld : tally .leaseLosses before = 0 → entry.closeMedia ≠ none ∧ entry.dispatchId ≠ none := by
      intro hfirst
      refine h.held hstate ?_
      have hlost := h.lost
      rw [hfirst] at hlost
      simpa using hlost
    refine (Program.safe_attempt_request_bind _ _ _).mpr ⟨⟨hready.facts, trivial⟩, hcalled, ?_⟩
    rintro entry₁ hrely (error | _ | _)
    · -- the renewal threw: lost the second time in a row
      have hready₁ := hcalled.rely hrely
      obtain ⟨timer, rfl⟩ : ∃ timer, entry₁ = { entry with leaseTimer := timer } := hrely
      rw [Program.safe_modify_bind, Program.safe_get_bind]
      refine ⟨⟨fun _ => id, fun hne => absurd rfl hne, fun hclears => hclears.elim⟩, ?_⟩
      by_cases hfirst : entry.consecutiveRenewFailures + 1 < 2
      · rw [if_pos hfirst]
        have hnone : ¬ 1 ≤ entry.consecutiveRenewFailures := by omega
        refine safe_decision ((hready₁.quiet (quiet_answered (by simp) ?_)
          (not_failedClose_answered (by simp))).failures _) (.of_kept ?_)
        · simp [bookkept, answerTallies, hnone]
        · simp [tallies, answerTallies, callTallies, hnone]
      · rw [if_neg hfirst]
        have hagain : 1 ≤ entry.consecutiveRenewFailures := by omega
        refine safe_leaseLost ⟨hready₁.facts.lose ?_ _, hready₁.stops.snoc ?_, by simp⟩ hstate ?_ ?_ ?_ hheld
        · simp [answerTallies, hagain]
        · exact not_failedClose_answered (by simp)
        · simp [tallies, answerTallies, callTallies]
        · simp [tallies, answerTallies, callTallies]
        · simp [tallies, answerTallies, callTallies]
    · -- the renewal was refused
      have hready₁ := hcalled.rely hrely
      obtain ⟨timer, rfl⟩ : ∃ timer, entry₁ = { entry with leaseTimer := timer } := hrely
      refine safe_leaseLost ⟨hready₁.facts.lose rfl _, hready₁.stops.snoc ?_, by simp⟩ hstate ?_ ?_ ?_ hheld
      · exact not_failedClose_answered (by simp)
      · simp [tallies, answerTallies, callTallies]
      · simp [tallies, answerTallies, callTallies]
      · simp [tallies, answerTallies, callTallies]
    · -- renewed
      have hready₁ := hcalled.rely hrely
      rw [Program.safe_modify_bind]
      refine ⟨⟨fun _ => id, fun hne => absurd rfl hne, fun hclears => hclears.elim⟩, ?_⟩
      refine safe_decision ((hready₁.quiet (quiet_answered (by simp) ?_)
        (not_failedClose_answered (by simp))).failures 0) (.of_kept ?_)
      · simp [bookkept, answerTallies]
      · simp [tallies, answerTallies, callTallies]

/-! ## Starting a call -/

/-- An entry as `#handleJoinEvent` creates it. -/
structure Unstarted (start : Entry) : Prop where
  claimed : start.state = .claimed
  undispatched : start.dispatchId = none
  unbridged : start.closeMedia = none
  unarmed : start.leaseTimer = false
  leased : start.leaseLost = false

theorem Unstarted.facts (h : Unstarted start) : CallFacts start start [] := by
  obtain ⟨hclaimed, hdispatch, hbridge, -, hleased⟩ := h
  have hlive : ¬ start.state.Terminal := by simp [hclaimed, CallState.Terminal]
  refine ⟨⟨rfl, rfl, rfl, rfl, rfl⟩, ⟨?_, ?_, ?_, ?_, ?_, ?_⟩, ⟨?_, ?_, ?_, ?_, ?_⟩, ?_, ?_, ?_, ?_, ?_⟩
  · exact hclaimed
  · simp [hclaimed]
  · exact fun _ => rfl
  · simp [hclaimed]
  · exact fun hterminal => absurd hterminal hlive
  · exact fun hterminal => absurd hterminal hlive
  · simp [hbridge]
  · simp [hdispatch]
  · exact Nat.le_refl _
  · exact Nat.le_refl _
  · exact Nat.zero_le _
  · exact fun _ => rfl
  · exact fun hterminal => absurd hterminal hlive
  · simp
  · simp [hclaimed]
  · simp [hleased]

/-- `#startCall` that leaves the call inactive. -/
theorem Concluded.of_inactive {result : Decision} (hstate : entry.state ≠ .active) :
    Concluded .start before own (.ok result) entry :=
  ⟨by simp, fun _ hactive => absurd hactive hstate, fun hclears => hclears.elim, by simp⟩

/-- The `catch` block of `#startCall` keeps the contract. -/
theorem safe_startFailed {stage : StartStage} {error : String} (hready : Ready start .start before own entry)
    (hstate : entry.state = .connecting ∨ entry.state = .claimed ∧ 0 < count .connectingThrew own) :
    (startFailed binding stage error).Safe ((callDiscipline binding start).contract .start before)
      ((callDiscipline binding start).post .start before) entry own := by
  have hnot : entry.state ≠ .active := by
    rcases hstate with h | ⟨h, -⟩ <;> simp [h]
  unfold startFailed
  rw [Program.safe_bind]
  refine safe_cleanup hready (fun hactive => absurd hactive hnot) (fun hclears => hclears.elim) ?_
  intro clean entry₁ own₁ hcleaned hready₁
  have hnot₁ : entry₁.state ≠ .active := hcleaned.state ▸ hnot
  have hmay : MayMove .start own₁ entry₁ .ending := by
    refine mayMove_ending hready₁ ?_ ?_ ?_ fun hclears => hclears.elim
    · rw [hcleaned.state]
      rcases hstate with h | ⟨h, -⟩ <;> simp [h, CallState.Terminal]
    · rw [hcleaned.state]
      rcases hstate with h | ⟨h, -⟩ <;> simp [h]
    · intro hclaimed
      rw [hcleaned.state] at hclaimed
      rcases hstate with h | ⟨-, hthrew⟩
      · rw [h] at hclaimed
        cases hclaimed
      · refine .inr ⟨rfl, rfl, .inl ⟨rfl, ?_⟩⟩
        rw [hcleaned.counts .connectingThrew (by simp)]
        exact hthrew
  cases clean with
  | false =>
      dsimp only
      rw [if_neg Bool.false_ne_true, Program.safe_bind]
      refine safe_tryTransition hready₁ hmay ?_ ?_
      · exact fun entry₂ own₂ _ _ hready₂ => safe_decision hready₂ (.of_inactive (by simp))
      · intro answer entry₂ own₂ _ hrely _ hready₂
        obtain rfl : entry₂ = entry₁ := hrely
        exact safe_decision hready₂ (.of_inactive hnot₁)
  | true =>
      have hreleased := hcleaned.clean rfl
      dsimp only
      rw [if_pos rfl, Program.safe_bind]
      refine safe_tryTransition hready₁ hmay ?_ ?_
      · -- the call is ending: the PBX may be touched
        intro entry₂ own₂ hrely _ hready₂
        obtain rfl : entry₂ = entry₁ := hrely
        dsimp only
        rw [if_pos rfl, Program.safe_bind]
        refine safe_pbxFallback hready₂ hreleased (.of_ending (by simp) (hready₂.facts.progress.ending rfl)) ?_
        intro complete entry₃ own₃ hrely₃ htallied hready₃
        obtain rfl : entry₃ = { entry₂ with state := .ending } := hrely₃
        cases complete with
        | false => exact safe_decision hready₃ (.of_inactive (by simp))
        | true =>
            have hconfirmed : Confirmed .start own₃ := by
              left
              rw [htallied .fallbackTrue]
              simp
            dsimp only
            rw [if_pos rfl, Program.safe_bind]
            refine safe_tryTransition hready₃ (mayMove_terminal (.inr rfl) rfl hreleased (fun _ => hconfirmed)
              fun hclears => hclears.elim) ?_ ?_
            · exact fun entry₄ own₄ _ _ hready₄ =>
                safe_forget hready₄ (.inl (.inr rfl)) (.of_inactive (by simp))
            · intro answer entry₄ own₄ _ hrely₄ _ hready₄
              obtain rfl : entry₄ = { entry₂ with state := .ending } := hrely₄
              exact safe_decision hready₄ (.of_inactive (by simp))
      · intro answer entry₂ own₂ _ hrely _ hready₂
        obtain rfl : entry₂ = entry₁ := hrely
        exact safe_decision hready₂ (.of_inactive hnot₁)

/-- The facts when the only dispatch of a call is requested. -/
theorem Ready.dispatchCalled (input : DispatchRequest) (hready : Ready start .start [] own entry)
    (hstate : entry.state = .connecting) (hcalls : count .dispatchCalls own = 0)
    (hforgets : count .forgets own = 0) :
    Ready start .start [] (own ++ [⟨entry, .called (.dispatchAgent input)⟩]) entry := by
  have hfacts := hready.facts
  refine ⟨⟨hfacts.same, ?_, ⟨?_, ?_, ?_, ?_, ?_⟩, ?_, hfacts.released, ?_, hfacts.held, ?_⟩,
    hready.stops.snoc not_failedClose_called, hready.fresh⟩
  · exact hfacts.progress.silent ⟨rfl, fun _ => rfl, fun _ _ => rfl⟩
  · simpa [tallies, callTallies] using hfacts.resources.bridges
  · simpa [tallies, callTallies] using hfacts.resources.dispatches
  · simpa [tallies, callTallies] using hfacts.resources.attached_le
  · have hle := hfacts.resources.dispatched_le
    simp [tallies, callTallies] at hle ⊢
    omega
  · simp [tallies, callTallies, hcalls]
  · rw [hstate]
    simp
  · intro hforgotten
    simp [tallies, callTallies, hforgets] at hforgotten
  · simpa [tallies, callTallies] using hfacts.lost

/-- The facts when the dispatch is accepted. -/
theorem Ready.dispatched (input : DispatchRequest) {dispatch : Option String} {dispatchId : String}
    (hready : Ready start .start [] own entry) (hstate : entry.state = .connecting)
    (hcalls : count .dispatchCalls own = 1) (hnone : entry.dispatchId = none)
    (hfirst : count .dispatched own = 0) (hid : boundedString dispatch 255 = some dispatchId) :
    Ready start .start [] (own ++ [⟨entry, .answered (.dispatchAgent input) (.ok dispatch)⟩])
      { entry with dispatchId := some dispatchId } := by
  have hfacts := hready.facts
  have hbooks := hfacts.resources.dispatches
  refine ⟨⟨hfacts.same, ?_, ⟨?_, ?_, ?_, ?_, ?_⟩, ?_, ?_, ?_, ?_, ?_⟩,
    hready.stops.snoc (not_failedClose_answered (by simp)), hready.fresh⟩
  · exact hfacts.progress.silent (silent_answered _ (by simp))
  · simpa [tallies, answerTallies] using hfacts.resources.bridges
  · simp [tallies, answerTallies, hid, hnone] at hbooks ⊢
    omega
  · have hle := hfacts.resources.attached_le
    simp [tallies, answerTallies, hid] at hle ⊢
    omega
  · simp [tallies, answerTallies, hid, hcalls, hfirst]
  · simp [tallies, answerTallies, hcalls]
  · simp [hstate]
  · simp [hstate, CallState.Terminal]
  · simpa [tallies, answerTallies] using hfacts.forgotten
  · simp [hstate]
  · simpa [tallies, answerTallies] using hfacts.lost

/-- The facts when the media bridge is attached. -/
theorem Ready.attached (input : MediaRequest) (bridge : MediaBridge)
    (hready : Ready start .start [] own entry) (hstate : entry.state = .connecting)
    (hdispatched : count .dispatched own = 1) (hnone : entry.closeMedia = none)
    (hfirst : count .attached own = 0) :
    Ready start .start [] (own ++ [⟨entry, .answered (.attachMedia input) (.ok (some bridge))⟩])
      { entry with closeMedia := some bridge } := by
  have hfacts := hready.facts
  have hbooks := hfacts.resources.bridges
  refine ⟨⟨hfacts.same, ?_, ⟨?_, ?_, ?_, ?_, ?_⟩, ?_, ?_, ?_, ?_, ?_⟩,
    hready.stops.snoc (not_failedClose_answered (by simp)), hready.fresh⟩
  · exact hfacts.progress.silent (silent_answered _ (by simp))
  · simp [tallies, answerTallies, hnone] at hbooks ⊢
    omega
  · simpa [tallies, answerTallies] using hfacts.resources.dispatches
  · simp [tallies, answerTallies, hdispatched, hfirst]
  · simpa [tallies, answerTallies] using hfacts.resources.dispatched_le
  · simpa [tallies, answerTallies] using hfacts.resources.dispatch_once
  · simp [hstate]
  · simp [hstate, CallState.Terminal]
  · simpa [tallies, answerTallies] using hfacts.forgotten
  · simp [hstate]
  · simpa [tallies, answerTallies] using hfacts.lost

/-- A write of `#startCall`. -/
theorem writeKept_start {entry' : Entry} (hlease : entry'.leaseLost = entry.leaseLost) :
    WriteKept .start own entry entry' :=
  ⟨fun hne => absurd rfl hne, fun _ => hlease, fun hclears => hclears.elim⟩

/-- `#startCall` once the agent is dispatched and the media attached: the activation. -/
theorem safe_activate {dispatchId : String} (hready : Ready start .start [] own entry)
    (hstate : entry.state = .connecting) (hmedia : entry.closeMedia ≠ none)
    (hdispatch : entry.dispatchId ≠ none) :
    (do
      match ← (transition binding .active (some dispatchId)).awaited.attempt with
      | .error error => startFailed binding .activation error
      | .ok false => startFailed binding .activation "active_transition_lost"
      | .ok true =>
          Program.modify (I := callInterface) scheduleLeaseRenewal
          decision "call_active" : CallProgram Decision).Safe
        ((callDiscipline binding start).contract .start [])
        ((callDiscipline binding start).post .start []) entry own := by
  have hmay : MayMove .start own entry .active := by
    refine ⟨?_, .inl ?_, by simp, by simp [CallState.Terminal], by simp [CallState.Terminal],
      fun _ => ⟨hmedia, hdispatch⟩, fun hclears => hclears.elim⟩
    · simp [hstate, CallState.Terminal]
    · rw [hstate]
      decide
  refine (Program.safe_attempt_bind _ _ _ _).mpr (safe_transition hready hmay ?_ ?_ ?_)
  · intro entry₁ own₁ hrely _ hready₁
    obtain rfl : entry₁ = entry := hrely
    have hfresh : entry₁.leaseTimer = false ∧ entry₁.leaseLost = false := hready₁.fresh rfl
    have harmed : scheduleLeaseRenewal { entry₁ with state := .active } =
        { entry₁ with state := .active, leaseTimer := true } := by
      simp [scheduleLeaseRenewal, hfresh.1, hfresh.2]
    dsimp only
    rw [Program.safe_modify_bind, harmed]
    refine ⟨writeKept_start rfl, ?_⟩
    -- the timer is armed: what is left reports the decision and ends
    refine ⟨⟨hready₁.facts.timer true, trivial⟩, ?_, ?_, ?_⟩
    · exact (hready₁.facts.quiet quiet_decision).timer true
    · exact hready₁.stops.snoc not_failedClose_emitted
    · exact ⟨by simp, fun _ _ => rfl, fun hclears => hclears.elim, by simp⟩
  · intro entry₁ own₁ hrely _ hready₁
    obtain rfl : entry₁ = entry := hrely
    exact safe_startFailed hready₁ (.inl hstate)
  · intro error entry₁ own₁ hrely _ hready₁
    obtain rfl : entry₁ = entry := hrely
    exact safe_startFailed hready₁ (.inl hstate)

/-- `#startCall` once the call is connecting keeps the contract. -/
theorem safe_connectCall (hready : Ready start .start [] own entry) (hstate : entry.state = .connecting)
    (hgranted : 0 < count .connectingGranted own) (hcalls : count .dispatchCalls own = 0)
    (hforgets : count .forgets own = 0) :
    (connectCall binding).Safe ((callDiscipline binding start).contract .start [])
      ((callDiscipline binding start).post .start []) entry own := by
  obtain ⟨hbridges, hdispatches, hattached, hdispatched, -⟩ := hready.facts.resources
  simp only [tally_upTo, tally_nil, hcalls] at hbridges hdispatches hattached hdispatched
  have hfirst : count .dispatched own = 0 := by omega
  have hunattached : count .attached own = 0 := by omega
  have hnone : entry.dispatchId = none := by
    by_contra hne
    rw [if_neg hne] at hdispatches
    omega
  have hunbridged : entry.closeMedia = none := by
    by_contra hne
    rw [if_neg hne] at hbridges
    omega
  have hcalled := hready.dispatchCalled (dispatchRequest binding entry) hstate hcalls hforgets
  unfold connectCall
  rw [Program.safe_get_bind]
  refine (Program.safe_attempt_request_bind _ _ _).mpr
    ⟨⟨hready.facts, rfl, rfl, hgranted, by simpa using hcalls⟩, hcalled, ?_⟩
  rintro entry₁ hrely (error | dispatch)
  · obtain rfl : entry₁ = entry := hrely
    refine safe_startFailed (hcalled.quiet (quiet_answered (by simp) ?_) (not_failedClose_answered (by simp)))
      (.inl hstate)
    simp [bookkept, answerTallies]
  · obtain rfl : entry₁ = entry := hrely
    dsimp only
    rw [Program.safe_modify_bind]
    refine ⟨writeKept_start rfl, ?_⟩
    cases hid : boundedString dispatch 255 with
    | none =>
        have hsame : ({ entry₁ with dispatchId := none } : Entry) = entry₁ := by
          rw [← hnone]
        dsimp only
        rw [hsame]
        refine safe_startFailed
          (hcalled.quiet (quiet_answered (by simp) ?_) (not_failedClose_answered (by simp))) (.inl hstate)
        simp [bookkept, answerTallies, hid]
    | some dispatchId =>
        have hready₁ := hcalled.dispatched (dispatchRequest binding entry₁) hstate
          (by simp [tallies, callTallies, hcalls]) hnone (by simp [tallies, callTallies, hfirst]) hid
        have hmedia := hready₁.called
          (q := .attachMedia (mediaRequest { entry₁ with dispatchId := some dispatchId } dispatchId))
          (by simp) (by simp)
        dsimp only
        rw [Program.safe_get_bind]
        refine (Program.safe_attempt_request_bind _ _ _).mpr ⟨⟨hready₁.facts, trivial⟩, hmedia, ?_⟩
        rintro entry₂ hrely (error | _ | bridge)
        · obtain rfl : entry₂ = { entry₁ with dispatchId := some dispatchId } := hrely
          refine safe_startFailed
            (hmedia.quiet (quiet_answered (by simp) ?_) (not_failedClose_answered (by simp))) (.inl hstate)
          simp [bookkept, answerTallies]
        · obtain rfl : entry₂ = { entry₁ with dispatchId := some dispatchId } := hrely
          refine safe_startFailed
            (hmedia.quiet (quiet_answered (by simp) ?_) (not_failedClose_answered (by simp))) (.inl hstate)
          simp [bookkept, answerTallies]
        · obtain rfl : entry₂ = { entry₁ with dispatchId := some dispatchId } := hrely
          have hready₂ := hmedia.attached
            (mediaRequest { entry₁ with dispatchId := some dispatchId } dispatchId) bridge hstate
            (by simp [tallies, callTallies, answerTallies, hid, hfirst]) hunbridged
            (by simp [tallies, callTallies, answerTallies, hunattached])
          dsimp only
          rw [Program.safe_modify_bind]
          exact ⟨writeKept_start rfl, safe_activate hready₂ hstate (by simp) (by simp)⟩

/-- `#startCall` keeps its contract. -/
theorem safe_startCall (h : Unstarted start) :
    (startCall binding).Safe ((callDiscipline binding start).contract .start [])
      ((callDiscipline binding start).post .start []) start [] := by
  have hready : Ready start .start [] [] start :=
    ⟨by simpa using h.facts, trivial, fun _ => ⟨h.unarmed, h.leased⟩⟩
  have hmay : MayMove .start [] start .connecting := by
    refine ⟨?_, .inl ?_, by simp, by simp [CallState.Terminal], by simp [CallState.Terminal], by simp,
      fun hclears => hclears.elim⟩
    · simp [h.claimed, CallState.Terminal]
    · rw [h.claimed]
      decide
  unfold startCall
  refine (Program.safe_attempt_bind _ _ _ _).mpr (safe_transition hready hmay ?_ ?_ ?_)
  · intro entry₁ own₁ _ htallied hready₁
    refine safe_connectCall hready₁ rfl ?_ ?_ ?_
    · rw [htallied .connectingGranted]
      exact Nat.succ_pos _
    · rw [htallied .dispatchCalls]
      rfl
    · rw [htallied .forgets]
      rfl
  · -- another worker owns the call
    intro entry₁ own₁ hrely htallied hready₁
    obtain rfl : entry₁ = start := hrely
    dsimp only
    rw [Program.safe_bind]
    refine safe_cleanup hready₁ (by simp [h.claimed]) (fun hclears => hclears.elim) ?_
    intro clean entry₂ own₂ hcleaned hready₂
    refine safe_forget hready₂ (.inr ⟨rfl, ?_, ?_⟩) (.of_inactive ?_)
    · rw [hcleaned.counts .connectingRefused (by simp), htallied .connectingRefused]
      exact Nat.succ_pos _
    · rw [tally_upTo, hcleaned.counts .dispatchCalls (by simp), htallied .dispatchCalls]
      rfl
    · rw [hcleaned.state, h.claimed]
      simp
  · intro error entry₁ own₁ hrely htallied hready₁
    obtain rfl : entry₁ = start := hrely
    refine safe_startFailed hready₁ (.inr ⟨h.claimed, ?_⟩)
    rw [htallied .connectingThrew]
    exact Nat.succ_pos _

/-- **Every operation on a call keeps its contract**, whatever the dependencies return or throw. -/
theorem callDiscipline_sound (binding : TenantBinding) (h : Unstarted start) :
    (callDiscipline binding start).Sound start .start where
  rely_refl := callRely_refl
  rely_trans := fun _ _ _ _ => callRely_trans
  suspends_rely := fun _ _ _ _ _ hrely hready => Ready.rely hready hrely
  invariant_drift := by
    rintro a b history ⟨timer, rfl⟩ hfacts
    exact CallFacts.timer hfacts timer
  opens := by
    rintro a rfl
    exact safe_startCall h
  follows := by
    intro op a before hlater hfacts
    cases op with
    | start => exact absurd rfl hlater
    | mediaFailure reason => exact safe_handleMediaFailure hfacts
    | hangup reason => exact safe_handleCallHangup hfacts
    | pbxEnd => exact safe_endCall hfacts
    | drain => exact safe_drain hfacts
    | renew => exact safe_renewLease hfacts
  settles := fun _ _ _ _ _ hpost => hpost.1

end Connector
end VoiceAssistants
