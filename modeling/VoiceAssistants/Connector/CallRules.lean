import VoiceAssistants.Connector.CallFacts

/-!
# Rules for the steps of an operation on a call

One rule for each step the operations share: `safe_transition`, `safe_tryTransition`, `safe_cleanup`,
`safe_pbxFallback`, `safe_forget`, `safe_decision`.  A rule asks for `Ready` before the step and hands `Ready`
to what follows, with the counts the step has changed; no proof about an operation looks at a mark.

Most marks are quiet (`Quiet`): they change nothing that `CallFacts` is about.
-/

namespace VoiceAssistants
namespace Connector

open Async ThreeCx

section Rely

variable {op : CallOp} {a b c : Entry}

theorem callRely.timer (h : callRely op a b) : ∃ timer, b = { a with leaseTimer := timer } := by
  cases op with
  | start => exact ⟨a.leaseTimer, h⟩
  | mediaFailure reason => exact h
  | hangup reason => exact h
  | pbxEnd => exact h
  | drain => exact h
  | renew => exact h

theorem callRely_of_timer (hop : op ≠ .start) (timer : Bool) :
    callRely op a { a with leaseTimer := timer } := by
  cases op with
  | start => exact absurd rfl hop
  | mediaFailure reason => exact ⟨timer, rfl⟩
  | hangup reason => exact ⟨timer, rfl⟩
  | pbxEnd => exact ⟨timer, rfl⟩
  | drain => exact ⟨timer, rfl⟩
  | renew => exact ⟨timer, rfl⟩

theorem callRely_refl (op : CallOp) (a : Entry) : callRely op a a := by
  by_cases hop : op = .start
  · subst hop
    rfl
  · exact callRely_of_timer hop a.leaseTimer

theorem callRely_trans (hab : callRely op a b) (hbc : callRely op b c) : callRely op a c := by
  by_cases hop : op = .start
  · subst hop
    exact Eq.trans hbc hab
  · obtain ⟨first, rfl⟩ := hab.timer
    obtain ⟨second, rfl⟩ := hbc.timer
    exact callRely_of_timer hop second

end Rely

/-! ## Quiet marks -/

/-- The counts that `CallFacts` needs unchanged. -/
def bookkept : List Count :=
  [.attached, .closed, .dispatched, .stopped, .dispatchCalls, .endingGranted, .forgets, .leaseLosses]

/-- A mark that does not change what the state of the entry is about. -/
structure Silent (state : CallState) (mark : CallMark) : Prop where
  ending : tallies .endingGranted mark = false
  granted : ∀ s, grantedAfter s mark = s
  last : state.Terminal → ∀ l, lastTerminalAfter l mark = l

/-- A mark that changes nothing `CallFacts` is about. -/
structure Quiet (state : CallState) (mark : CallMark) : Prop where
  counts : ∀ k ∈ bookkept, tallies k mark = false
  granted : ∀ s, grantedAfter s mark = s
  last : state.Terminal → ∀ l, lastTerminalAfter l mark = l

theorem Quiet.silent {state : CallState} {mark : CallMark} (h : Quiet state mark) : Silent state mark :=
  ⟨h.counts _ (by simp [bookkept]), h.granted, h.last⟩

/-- An answer of a dependency other than `transitionCall`. -/
theorem silent_answered (state : CallState) {entry : Entry} {q : Request} {answer : Except String q.Answer}
    (hq : ∀ input, q ≠ .transitionCall input) : Silent state ⟨entry, .answered q answer⟩ := by
  cases q with
  | transitionCall input => exact absurd rfl (hq input)
  | claimCall input => exact ⟨rfl, fun s => rfl, fun _ l => rfl⟩
  | renewCallLease input => rcases answer with error | _ | _ <;> exact ⟨rfl, fun s => rfl, fun _ l => rfl⟩
  | dispatchAgent input => cases answer <;> exact ⟨rfl, fun s => rfl, fun _ l => rfl⟩
  | attachMedia input => rcases answer with error | _ | _ <;> exact ⟨rfl, fun s => rfl, fun _ l => rfl⟩
  | closeMedia bridge => cases answer <;> exact ⟨rfl, fun s => rfl, fun _ l => rfl⟩
  | stopAgent input => cases answer <;> exact ⟨rfl, fun s => rfl, fun _ l => rfl⟩
  | handlePbxFallback input => rcases answer with error | _ | _ <;> exact ⟨rfl, fun s => rfl, fun _ l => rfl⟩

theorem quiet_called {state : CallState} {entry : Entry} {q : Request}
    (hdispatch : ∀ input, q ≠ .dispatchAgent input)
    (hlive : ∀ input, q = .transitionCall input → ¬ state.Terminal) : Quiet state ⟨entry, .called q⟩ := by
  refine ⟨?_, fun s => rfl, ?_⟩
  · cases q <;> simp [bookkept, tallies, callTallies] at hdispatch ⊢
  · intro hterminal l
    cases q <;> simp [lastTerminalAfter]
    exact absurd hterminal (hlive _ rfl)

theorem quiet_transition_denied {state : CallState} (entry : Entry) (input : TransitionRequest)
    (answer : Except String Bool) (h : answer ≠ .ok true) :
    Quiet state ⟨entry, .answered (.transitionCall input) answer⟩ := by
  rcases answer with error | _ | _
  · exact ⟨by simp [bookkept, tallies, answerTallies, transitionTallies], fun s => rfl, fun _ l => rfl⟩
  · exact ⟨by simp [bookkept, tallies, answerTallies, transitionTallies], fun s => rfl, fun _ l => rfl⟩
  · exact absurd rfl h

theorem quiet_fallback {state : CallState} {entry : Entry} {input : FallbackRequest}
    {answer : Except String Bool} : Quiet state ⟨entry, .answered (.handlePbxFallback input) answer⟩ := by
  rcases answer with error | _ | _
  · exact ⟨by simp [bookkept, tallies, answerTallies], fun s => rfl, fun _ l => rfl⟩
  · exact ⟨by simp [bookkept, tallies, answerTallies], fun s => rfl, fun _ l => rfl⟩
  · exact ⟨by simp [bookkept, tallies, answerTallies], fun s => rfl, fun _ l => rfl⟩

theorem quiet_decision {state : CallState} {entry : Entry} {reason : String} :
    Quiet state ⟨entry, .emitted (.decision reason)⟩ :=
  ⟨by simp [bookkept, tallies], fun s => rfl, fun _ l => rfl⟩

/-- An answer that no book is kept of. -/
theorem quiet_answered {state : CallState} {entry : Entry} {q : Request} {answer : Except String q.Answer}
    (hq : ∀ input, q ≠ .transitionCall input) (h : ∀ k ∈ bookkept, answerTallies k entry q answer = false) :
    Quiet state ⟨entry, .answered q answer⟩ :=
  ⟨h, (silent_answered state hq).granted, (silent_answered state hq).last⟩

section Extend

variable {start entry entry' : Entry} {op : CallOp} {before : CallHistory} {own : List CallMark}
  {mark : CallMark}

theorem Progress.silent (h : Progress entry.state (upTo before op own)) (hmark : Silent entry.state mark) :
    Progress entry.state (upTo before op (own ++ [mark])) := by
  have hending := hmark.ending
  refine ⟨?_, h.untransferred, ?_, ?_, ?_, ?_⟩
  · have hgranted := h.granted
    rw [trace_upTo] at hgranted ⊢
    rw [← List.append_assoc, grantedState_append _ [mark], ← hgranted]
    exact (hmark.granted _).symm
  · simpa [hending] using h.unended
  · simpa [hending] using h.ending
  · intro hterminal
    have hlast := h.recorded hterminal
    rw [trace_upTo] at hlast ⊢
    rw [← List.append_assoc, lastTerminal_append _ [mark], hlast]
    exact hmark.last hterminal _
  · intro hterminal
    rw [upTo_append]
    rcases h.confirmed hterminal with htrue | hended | hhangup
    · left
      rw [← upTo_append]
      simp only [tally_upTo, count_append] at htrue ⊢
      omega
    · exact .inr (.inl hended.mono)
    · exact .inr (.inr hhangup.mono)

/-- The books only depend on their counts and on which resources are held. -/
theorem Resources.of_counts {history history' : CallHistory} (h : Resources entry history)
    (hbridge : entry'.closeMedia = entry.closeMedia) (hdispatch : entry'.dispatchId = entry.dispatchId)
    (hcount : ∀ k ∈ [Count.attached, .closed, .dispatched, .stopped, .dispatchCalls],
      tally k history' = tally k history) : Resources entry' history' := by
  have hattached := hcount .attached (by simp)
  have hclosed := hcount .closed (by simp)
  have hdispatched := hcount .dispatched (by simp)
  have hstopped := hcount .stopped (by simp)
  have hcalls := hcount .dispatchCalls (by simp)
  refine ⟨?_, ?_, ?_, ?_, ?_⟩
  · rw [hattached, hclosed, hbridge]
    exact h.bridges
  · rw [hdispatched, hstopped, hdispatch]
    exact h.dispatches
  · rw [hattached, hdispatched]
    exact h.attached_le
  · rw [hdispatched, hcalls]
    exact h.dispatched_le
  · rw [hcalls]
    exact h.dispatch_once

theorem Resources.quiet (h : Resources entry (upTo before op own)) (hmark : Quiet entry.state mark) :
    Resources entry (upTo before op (own ++ [mark])) := by
  refine h.of_counts rfl rfl fun k hk => ?_
  have hbook : k ∈ bookkept := by
    revert hk
    cases k <;> simp [bookkept]
  simp [hmark.counts k hbook]

theorem CallFacts.quiet (h : CallFacts start entry (upTo before op own)) (hmark : Quiet entry.state mark) :
    CallFacts start entry (upTo before op (own ++ [mark])) := by
  have hcalls : tallies .dispatchCalls mark = false := hmark.counts _ (by simp [bookkept])
  have hforgets : tallies .forgets mark = false := hmark.counts _ (by simp [bookkept])
  have hlosses : tallies .leaseLosses mark = false := hmark.counts _ (by simp [bookkept])
  refine ⟨h.same, h.progress.silent hmark.silent, h.resources.quiet hmark, ?_, h.released, ?_, h.held, ?_⟩
  · simpa [hcalls] using h.undispatched
  · intro hforgotten
    rcases h.forgotten (by simpa [hforgets] using hforgotten) with hterminal | ⟨hrefused, hnone⟩
    · exact .inl hterminal
    · right
      simp only [tally_upTo, count_append, count_cons, count_nil, hcalls] at hrefused hnone ⊢
      exact ⟨by omega, by simpa using hnone⟩
  · simpa [hlosses] using h.lost

/-- The renewal timer is not part of the facts. -/
theorem CallFacts.timer {history : CallHistory} (h : CallFacts start entry history) (timer : Bool) :
    CallFacts start { entry with leaseTimer := timer } history :=
  ⟨h.same, h.progress, ⟨h.resources.bridges, h.resources.dispatches, h.resources.attached_le,
    h.resources.dispatched_le, h.resources.dispatch_once⟩, h.undispatched, h.released, h.forgotten, h.held,
    h.lost⟩

theorem StopFollows.snoc (h : StopFollows own) (hmark : ¬ FailedClose mark) : StopFollows (own ++ [mark]) :=
  h.append ⟨fun hfailed => absurd hfailed hmark, trivial⟩

theorem not_failedClose_answered {q : Request} {answer : Except String q.Answer}
    (hq : ∀ bridge, q ≠ .closeMedia bridge) : ¬ FailedClose ⟨entry, .answered q answer⟩ := by
  rintro ⟨-, bridge, error, hevent⟩
  cases hevent
  exact hq bridge rfl

theorem not_failedClose_called {q : Request} : ¬ FailedClose ⟨entry, .called q⟩ := by
  rintro ⟨-, bridge, error, hevent⟩
  cases hevent

theorem not_failedClose_emitted {output : Output} : ¬ FailedClose ⟨entry, .emitted output⟩ := by
  rintro ⟨-, bridge, error, hevent⟩
  cases hevent

theorem Ready.quiet (h : Ready start op before own entry) (hmark : Quiet entry.state mark)
    (hclose : ¬ FailedClose mark) : Ready start op before (own ++ [mark]) entry :=
  ⟨h.facts.quiet hmark, h.stops.snoc hclose, h.fresh⟩

theorem Ready.called (h : Ready start op before own entry) {q : Request}
    (hdispatch : ∀ input, q ≠ .dispatchAgent input)
    (hlive : ∀ input, q = .transitionCall input → ¬ entry.state.Terminal) :
    Ready start op before (own ++ [⟨entry, .called q⟩]) entry :=
  h.quiet (quiet_called hdispatch hlive) not_failedClose_called

theorem Ready.rely (h : Ready start op before own entry) (hrely : callRely op entry entry') :
    Ready start op before own entry' := by
  refine ⟨?_, h.stops, ?_⟩
  · obtain ⟨timer, rfl⟩ := hrely.timer
    exact h.facts.timer timer
  · rintro rfl
    have heq : entry' = entry := hrely
    rw [heq]
    exact h.fresh rfl

theorem Ready.decided (h : Ready start op before own entry) (reason : String) :
    Ready start op before (own ++ [⟨entry, .emitted (.decision reason)⟩]) entry :=
  h.quiet quiet_decision not_failedClose_emitted

/-- Disarming the renewal timer. -/
theorem Ready.clear (h : Ready start op before own entry) :
    Ready start op before own (clearLeaseRenewal entry) := by
  refine ⟨h.facts.timer false, h.stops, ?_⟩
  intro hop
  exact ⟨rfl, (h.fresh hop).2⟩

end Extend

/-! ## Transitions -/

/-- `own'` is `own` with one more of each fact that `tallied` selects. -/
def Tallied (own own' : List CallMark) (tallied : Count → Bool) : Prop :=
  ∀ k, count k own' = count k own + if tallied k then 1 else 0

section Transition

variable {binding : TenantBinding} {start entry entry' : Entry} {op : CallOp} {before : CallHistory}
  {own : List CallMark} {newState : CallState}

theorem exists_of_count_pos {k : Count} {marks : List CallMark} (h : 0 < count k marks) :
    ∃ mark ∈ marks, tallies k mark = true :=
  List.countP_pos_iff.mp h

/-- Why a call in a terminal state was relinquished. -/
theorem confirmed_upTo {input : TransitionRequest} (hterminal : input.newState.Terminal)
    (hconfirmed : op ≠ .pbxEnd → Confirmed op own) (called : CallMark) (seen : Entry) :
    0 < tally .fallbackTrue (upTo before op
        (own ++ [called, ⟨seen, .answered (.transitionCall input) (.ok true)⟩])) ∨
      PbxEnded (upTo before op (own ++ [called, ⟨seen, .answered (.transitionCall input) (.ok true)⟩])) ∨
      HangupUnconfirmed
        (upTo before op (own ++ [called, ⟨seen, .answered (.transitionCall input) (.ok true)⟩])) := by
  by_cases hop : op = .pbxEnd
  · refine .inr (.inl ⟨input, seen, hterminal, ?_⟩)
    simp [upTo, hop]
  · rcases hconfirmed hop with htrue | ⟨hhangup, hfailed⟩
    · left
      simp only [tally_upTo, count_append]
      omega
    · obtain ⟨mark, hmem, hmark⟩ := exists_of_count_pos hfailed
      refine .inr (.inr ⟨(op, mark), ?_, hhangup, hmark⟩)
      simp [upTo, hmem]

/-- When an operation may ask for a new state. -/
structure MayMove (op : CallOp) (own : List CallMark) (entry : Entry) (newState : CallState) : Prop where
  live : ¬ entry.state.Terminal
  legal : Legal op own entry.state newState
  target : newState ≠ .transferring ∧ newState ≠ .transferred
  confirmed : newState.Terminal → op ≠ .pbxEnd → Confirmed op own
  released : newState.Terminal → entry.closeMedia = none ∧ entry.dispatchId = none
  held : newState = .active → entry.closeMedia ≠ none ∧ entry.dispatchId ≠ none
  undenied : op.Clears → denials own = 0

/-- The facts after a granted transition. -/
theorem CallFacts.granted (h : CallFacts start entry (upTo before op own))
    (hmay : MayMove op own entry newState) (input : TransitionRequest) (hinput : input.newState = newState) (seen : Entry) :
    CallFacts start { entry with state := newState }
      (upTo before op (own ++ [⟨entry, .called (.transitionCall input)⟩,
        ⟨seen, .answered (.transitionCall input) (.ok true)⟩])) := by
  obtain ⟨hlive, hlegal, hnew, hconfirmed, hreleased, hheld, -⟩ := hmay
  have hclaimed : newState ≠ .claimed := by
    rcases hlegal with hedge | ⟨-, rfl, -⟩
    · exact hedge.ne_claimed
    · simp
  have hold : newState = .connecting ∨ newState = .active →
      entry.state = .claimed ∨ entry.state = .connecting ∨ entry.state = .active := by
    intro hcases
    rcases hlegal with hedge | ⟨hstate, -, -⟩
    · have huntransferred := h.progress.untransferred
      revert hedge huntransferred
      rcases hcases with rfl | rfl <;> cases entry.state <;> simp [CallState.Edge, CallState.transitions]
    · exact .inl hstate
  have hzero : ∀ k ∈ bookkept, k ≠ .endingGranted →
      tallies k ⟨seen, .answered (.transitionCall input) (.ok true)⟩ = false ∧
        tallies k ⟨entry, .called (.transitionCall input)⟩ = false := by
    simp [bookkept, tallies, answerTallies, transitionTallies, callTallies]
  have hcount : ∀ k ∈ bookkept, k ≠ .endingGranted →
      tally k (upTo before op (own ++ [⟨entry, .called (.transitionCall input)⟩,
        ⟨seen, .answered (.transitionCall input) (.ok true)⟩])) = tally k (upTo before op own) := by
    intro k hk hne
    simp [hzero k hk hne]
  have hcalls := hcount .dispatchCalls (by simp [bookkept]) (by simp)
  have hforgets := hcount .forgets (by simp [bookkept]) (by simp)
  have hlosses := hcount .leaseLosses (by simp [bookkept]) (by simp)
  refine ⟨h.same, ?_, ?_, ?_, hreleased, ?_, ?_, ?_⟩
  · refine ⟨?_, hnew, ?_, ?_, ?_, fun hterminal => ?_⟩
    · simp [grantedAfter, hinput]
    · intro hcases
      have hcases' : newState = .connecting ∨ newState = .active := hcases.resolve_left hclaimed
      have hnone := h.progress.unended (hold hcases')
      have hending : newState ≠ .ending := by
        rcases hcases' with rfl | rfl <;> simp
      simpa [tallies, answerTallies, callTallies, transitionTallies, hinput, hending] using hnone
    · intro hstate
      have hstate' : newState = .ending := hstate
      simp only [tally_upTo, count_append, count_cons, tallies, answerTallies, transitionTallies, hinput,
        hstate', decide_true, if_true]
      omega
    · intro hterminal
      have hterminal' : input.newState.Terminal := hinput ▸ hterminal
      simp [lastTerminalAfter, hterminal']
    · exact confirmed_upTo (hinput ▸ hterminal) (hconfirmed hterminal) _ _
  · refine h.resources.of_counts rfl rfl fun k hk => ?_
    have hbook : k ∈ bookkept ∧ k ≠ .endingGranted := by
      revert hk
      cases k <;> simp [bookkept]
    exact hcount k hbook.1 hbook.2
  · intro hstate
    exact absurd hstate hclaimed
  · intro hforgotten
    rw [hforgets] at hforgotten
    rcases h.forgotten hforgotten with hterminal | ⟨hrefused, hnone⟩
    · exact absurd hterminal hlive
    · right
      rw [hcalls]
      refine ⟨?_, hnone⟩
      simp only [tally_upTo, count_append] at hrefused ⊢
      omega
  · intro hstate _
    exact hheld hstate
  · rw [hlosses]
    exact h.lost

/-- **`#transition`.**  Granted, refused or failed; the new state is set before anyone else runs. -/
theorem safe_transition {post : Post callInterface Bool} {dispatchId : Option String}
    (hready : Ready start op before own entry) (hmay : MayMove op own entry newState)
    (hgranted : ∀ entry' own', callRely op entry entry' →
      Tallied own own' (fun k => transitionTallies k newState (.ok true)) →
      Ready start op before own' { entry' with state := newState } →
      post (.ok true) { entry' with state := newState } own')
    (hrefused : ∀ entry' own', callRely op entry entry' →
      Tallied own own' (fun k => transitionTallies k newState (.ok false)) →
      Ready start op before own' entry' → post (.ok false) entry' own')
    (hthrew : ∀ error entry' own', callRely op entry entry' →
      Tallied own own' (fun k => transitionTallies k newState (.error error)) →
      Ready start op before own' entry' → post (.error error) entry' own') :
    (transition binding newState dispatchId).awaited.Safe ((callDiscipline binding start).contract op before)
      post entry own := by
  have hcalled := hready.called (q := .transitionCall (transitionRequest binding entry newState dispatchId))
    (by simp) (fun _ _ => hmay.live)
  have htallied : ∀ answer seen, Tallied own
      (own ++ [⟨entry, .called (.transitionCall (transitionRequest binding entry newState dispatchId))⟩] ++
        [⟨seen, .answered (.transitionCall (transitionRequest binding entry newState dispatchId)) answer⟩])
      (fun k => transitionTallies k newState answer) := by
    intro answer seen k
    simp [tallies, callTallies, answerTallies, transitionRequest]
    rfl
  refine (Program.safe_awaited _ _ _).mpr ⟨⟨hready.facts, rfl, hmay.legal, hmay.confirmed⟩, hcalled, ?_⟩
  rintro entry₁ hrely (error | _ | _)
  · -- the dependency threw
    have hready₁ := (hcalled.rely hrely).quiet
      (quiet_transition_denied entry₁ (transitionRequest binding entry newState dispatchId) (.error error)
        (by simp))
      (not_failedClose_answered (by simp))
    refine ⟨hready₁, fun entry₂ hrely₂ => ?_⟩
    exact hthrew error entry₂ _ (callRely_trans hrely hrely₂) (htallied _ _) (hready₁.rely hrely₂)
  · -- the compare-and-set was refused
    have hready₁ := (hcalled.rely hrely).quiet
      (quiet_transition_denied entry₁ (transitionRequest binding entry newState dispatchId) (.ok false)
        (by simp))
      (not_failedClose_answered (by simp))
    refine ⟨hready₁, fun entry₂ hrely₂ => ?_⟩
    exact hrefused entry₂ _ (callRely_trans hrely hrely₂) (htallied _ _) (hready₁.rely hrely₂)
  · -- the compare-and-set was granted
    obtain ⟨timer, rfl⟩ := hrely.timer
    have hfacts := hready.facts.granted hmay
      (transitionRequest binding entry newState dispatchId) rfl { entry with leaseTimer := timer }
    have hready₁ : Ready start op before
        (own ++ [⟨entry, .called (.transitionCall (transitionRequest binding entry newState dispatchId))⟩] ++
          [⟨{ entry with leaseTimer := timer },
            .answered (.transitionCall (transitionRequest binding entry newState dispatchId)) (.ok true)⟩])
        { entry with leaseTimer := timer, state := newState } := by
      refine ⟨?_, ?_, fun hop => (hcalled.rely hrely).fresh hop⟩
      · rw [List.append_assoc]
        exact hfacts.timer timer
      · exact hcalled.stops.snoc (not_failedClose_answered (by simp))
    refine ⟨⟨fun _ => id, fun _ => rfl, fun hclears hdenied => ?_⟩, hready₁, fun entry₂ hrely₂ => ?_⟩
    · have hnone := hmay.undenied hclears
      simp [denials, tallies, callTallies, answerTallies, transitionTallies] at hdenied hnone
      omega
    · obtain ⟨timer₂, rfl⟩ := hrely₂.timer
      have hrely' : callRely op entry { entry with leaseTimer := timer₂ } := by
        by_cases hop : op = .start
        · subst hop
          have h₁ : ({ entry with leaseTimer := timer } : Entry) = entry := hrely
          have h₂ : ({ entry with leaseTimer := timer₂, state := newState } : Entry) =
            { entry with leaseTimer := timer, state := newState } := hrely₂
          have ht₁ := congrArg Entry.leaseTimer h₁
          have ht₂ := congrArg Entry.leaseTimer h₂
          simp only at ht₁ ht₂
          rw [ht₂, ht₁]
          rfl
        · exact callRely_of_timer hop timer₂
      exact hgranted _ _ hrely' (htallied _ _) (hready₁.rely hrely₂)

/-- `#transition` in a `try`. -/
theorem safe_tryTransition {post : Post callInterface Bool} (hready : Ready start op before own entry)
    (hmay : MayMove op own entry newState)
    (hgranted : ∀ entry' own', callRely op entry entry' →
      Tallied own own' (fun k => transitionTallies k newState (.ok true)) →
      Ready start op before own' { entry' with state := newState } →
      post (.ok true) { entry' with state := newState } own')
    (hdenied : ∀ answer entry' own', answer ≠ .ok true → callRely op entry entry' →
      Tallied own own' (fun k => transitionTallies k newState answer) →
      Ready start op before own' entry' → post (.ok false) entry' own') :
    (tryTransition binding newState).Safe ((callDiscipline binding start).contract op before)
      post entry own := by
  unfold tryTransition
  refine (Program.safe_attempt_bind _ _ _ _).mpr (safe_transition hready hmay ?_ ?_ ?_)
  · exact hgranted
  · exact fun entry' own' => hdenied (.ok false) entry' own' (by simp)
  · exact fun error entry' own' => hdenied (.error error) entry' own' (by simp)

end Transition

/-! ## Releasing the resources -/

section Cleanup

variable {binding : TenantBinding} {start entry entry' seen : Entry} {op : CallOp} {before : CallHistory}
  {own own' : List CallMark}

/-- The facts after the bridge was closed. -/
theorem CallFacts.close {bridge : MediaBridge} (h : CallFacts start entry (upTo before op own))
    (hbridge : entry.closeMedia ≠ none) (hlease : entry.state = .active → entry.leaseLost = true)
    (answer : Unit) :
    CallFacts start { entry with closeMedia := none }
      (upTo before op (own ++ [⟨seen, .answered (.closeMedia bridge) (.ok answer)⟩])) := by
  have hbooks := h.resources.bridges
  refine ⟨h.same, h.progress.silent (silent_answered _ (by simp)), ⟨?_, ?_, ?_, ?_, ?_⟩, ?_, ?_, ?_, ?_, ?_⟩
  · simp [hbridge, tallies, answerTallies] at hbooks ⊢
    omega
  · simpa [tallies, answerTallies] using h.resources.dispatches
  · simpa [tallies, answerTallies] using h.resources.attached_le
  · simpa [tallies, answerTallies] using h.resources.dispatched_le
  · simpa [tallies, answerTallies] using h.resources.dispatch_once
  · simpa [tallies, answerTallies] using h.undispatched
  · exact fun hterminal => ⟨rfl, (h.released hterminal).2⟩
  · simpa [tallies, answerTallies] using h.forgotten
  · intro hactive hkept
    rw [hlease hactive] at hkept
    cases hkept
  · simpa [tallies, answerTallies] using h.lost

/-- The facts after the agent was stopped. -/
theorem CallFacts.stop {input : StopRequest} (h : CallFacts start entry (upTo before op own))
    (hdispatch : entry.dispatchId ≠ none) (hlease : entry.state = .active → entry.leaseLost = true)
    (answer : Unit) :
    CallFacts start { entry with dispatchId := none }
      (upTo before op (own ++ [⟨seen, .answered (.stopAgent input) (.ok answer)⟩])) := by
  have hbooks := h.resources.dispatches
  refine ⟨h.same, h.progress.silent (silent_answered _ (by simp)), ⟨?_, ?_, ?_, ?_, ?_⟩, ?_, ?_, ?_, ?_, ?_⟩
  · simpa [tallies, answerTallies] using h.resources.bridges
  · simp [hdispatch, tallies, answerTallies] at hbooks ⊢
    omega
  · simpa [tallies, answerTallies] using h.resources.attached_le
  · simpa [tallies, answerTallies] using h.resources.dispatched_le
  · simpa [tallies, answerTallies] using h.resources.dispatch_once
  · simpa [tallies, answerTallies] using h.undispatched
  · exact fun hterminal => ⟨(h.released hterminal).1, rfl⟩
  · simpa [tallies, answerTallies] using h.forgotten
  · intro hactive hkept
    rw [hlease hactive] at hkept
    cases hkept
  · simpa [tallies, answerTallies] using h.lost

/-- After a close: an attempt to stop the agent is owed if the close failed and an agent is there. -/
structure Owing (entry : Entry) (own : List CallMark) : Prop where
  settled : entry.dispatchId = none → StopFollows own
  attempt : ∀ mark, StopAttempt mark → StopFollows (own ++ [mark])

theorem StopFollows.owing (h : StopFollows own) : Owing entry own := by
  refine ⟨fun _ => h, ?_⟩
  rintro mark ⟨input, hevent⟩
  refine h.snoc ?_
  rintro ⟨-, bridge, error, hclose⟩
  rw [hevent] at hclose
  cases hclose

/-- What `#cleanup` leaves behind. -/
structure Cleaned (entry entry' : Entry) (own own' : List CallMark) (clean : Bool) : Prop where
  state : entry'.state = entry.state
  lease : entry'.leaseLost = entry.leaseLost
  clean : clean = true → entry'.closeMedia = none ∧ entry'.dispatchId = none
  counts : ∀ k, k ∉ [Count.closeCalls, .closed, .stopCalls, .stopped] → count k own' = count k own
  closes : entry.closeMedia ≠ none → 0 < count .closeCalls own'
  stops : entry.dispatchId ≠ none → 0 < count .stopCalls own'

/-- A failed close leaves a stop attempt owed when an agent was dispatched. -/
theorem StopFollows.owing_failed {bridge : MediaBridge} {error : String} (h : StopFollows own) :
    Owing entry (own ++ [⟨entry, .answered (.closeMedia bridge) (.error error)⟩]) := by
  refine ⟨fun hnone => h.snoc fun hfailed => hfailed.1 hnone, fun mark hstop => ?_⟩
  rw [List.append_assoc]
  refine h.append ⟨fun _ => ⟨mark, rfl, hstop⟩, ?_, trivial⟩
  obtain ⟨input, hevent⟩ := hstop
  rintro ⟨-, bridge', error', hclose⟩
  rw [hevent] at hclose
  cases hclose

/-- The first half of `#cleanup`. -/
theorem safe_closeBridge {post : Post callInterface Bool} (hready : Ready start op before own entry)
    (hlease : entry.state = .active → entry.leaseLost = true) (hundenied : op.Clears → denials own = 0)
    (hpost : ∀ closed entry' own', entry'.state = entry.state → entry'.leaseLost = entry.leaseLost →
      entry'.dispatchId = entry.dispatchId → (closed = true → entry'.closeMedia = none) →
      (∀ k, k ∉ [Count.closeCalls, .closed] → count k own' = count k own) →
      (entry.closeMedia ≠ none → 0 < count .closeCalls own') →
      CallFacts start entry' (upTo before op own') → Owing entry' own' →
      (op = .start → entry'.leaseTimer = false ∧ entry'.leaseLost = false) →
      post (.ok closed) entry' own') :
    closeBridge.Safe ((callDiscipline binding start).contract op before) post entry own := by
  unfold closeBridge
  rw [Program.safe_get_bind]
  cases hbridge : entry.closeMedia with
  | none =>
      exact hpost true entry own rfl rfl rfl (fun _ => hbridge) (fun _ _ => rfl)
        (fun hne => absurd hbridge hne) hready.facts hready.stops.owing hready.fresh
  | some bridge =>
      have hcalled := hready.called (q := .closeMedia bridge) (by simp) (by simp)
      refine (Program.safe_attempt_request_bind _ _ _).mpr ⟨⟨hready.facts, trivial⟩, hcalled, ?_⟩
      rintro entry₁ hrely (error | answer)
      · have hready₁ := hcalled.rely hrely
        obtain ⟨timer, rfl⟩ := hrely.timer
        refine hpost false _ _ rfl rfl rfl (by simp) ?_ ?_ ?_ ?_ hready₁.fresh
        · intro k hk
          revert hk
          cases k <;> simp [tallies, callTallies, answerTallies]
        · intro _
          simp only [count_append, count_cons, tallies, callTallies, if_true]
          omega
        · refine hready₁.facts.quiet (quiet_answered (by simp) ?_)
          simp [bookkept, answerTallies]
        · exact hready₁.stops.owing_failed
      · have hready₁ := hcalled.rely hrely
        obtain ⟨timer, rfl⟩ := hrely.timer
        refine ⟨⟨fun _ => id, fun _ => rfl, fun hclears hdenied => ?_⟩, ?_⟩
        · have hnone := hundenied hclears
          simp [denials, tallies, callTallies, answerTallies] at hdenied hnone
          omega
        · refine hpost true _ _ rfl rfl rfl (fun _ => rfl) ?_ ?_ ?_ ?_ hready₁.fresh
          · intro k hk
            revert hk
            cases k <;> simp [tallies, callTallies, answerTallies]
          · intro _
            simp only [count_append, count_cons, tallies, callTallies, if_true]
            omega
          · exact hready₁.facts.close (by simp [hbridge]) hlease answer
          · refine (hready₁.stops.snoc ?_).owing
            rintro ⟨-, bridge', error', hclose⟩
            cases hclose

/-- The second half of `#cleanup`, right after the first. -/
theorem safe_stopDispatch {post : Post callInterface Bool}
    (hfacts : CallFacts start entry (upTo before op own)) (howing : Owing entry own)
    (hfresh : op = .start → entry.leaseTimer = false ∧ entry.leaseLost = false)
    (hlease : entry.state = .active → entry.leaseLost = true) (hundenied : op.Clears → denials own = 0)
    (hpost : ∀ stopped entry' own', entry'.state = entry.state → entry'.leaseLost = entry.leaseLost →
      entry'.closeMedia = entry.closeMedia → (stopped = true → entry'.dispatchId = none) →
      (∀ k, k ∉ [Count.stopCalls, .stopped] → count k own' = count k own) →
      (entry.dispatchId ≠ none → 0 < count .stopCalls own') →
      Ready start op before own' entry' → post (.ok stopped) entry' own') :
    (stopDispatch binding).Safe ((callDiscipline binding start).contract op before) post entry own := by
  unfold stopDispatch
  rw [Program.safe_get_bind]
  cases hdispatch : entry.dispatchId with
  | none =>
      exact hpost true entry own rfl rfl rfl (fun _ => hdispatch) (fun _ _ => rfl)
        (fun hne => absurd hdispatch hne) ⟨hfacts, howing.settled hdispatch, hfresh⟩
  | some dispatchId =>
      have hcalled : Ready start op before
          (own ++ [⟨entry, .called (.stopAgent (stopRequest binding entry dispatchId))⟩]) entry :=
        ⟨hfacts.quiet (quiet_called (by simp) (by simp)), howing.attempt _ ⟨_, rfl⟩, hfresh⟩
      refine (Program.safe_attempt_request_bind _ _ _).mpr ⟨⟨hfacts, trivial⟩, hcalled, ?_⟩
      rintro entry₁ hrely (error | answer)
      · have hquiet : Quiet entry₁.state
            ⟨entry₁, .answered (.stopAgent (stopRequest binding entry dispatchId)) (.error error)⟩ :=
          quiet_answered (by simp) (by simp [bookkept, answerTallies])
        have hready₁ := (hcalled.rely hrely).quiet hquiet (not_failedClose_answered (by simp))
        obtain ⟨timer, rfl⟩ := hrely.timer
        refine hpost false _ _ rfl rfl rfl (by simp) ?_ ?_ hready₁
        · intro k hk
          revert hk
          cases k <;> simp [tallies, callTallies, answerTallies]
        · intro _
          simp only [count_append, count_cons, tallies, callTallies, if_true]
          omega
      · have hready₁ := hcalled.rely hrely
        obtain ⟨timer, rfl⟩ := hrely.timer
        refine ⟨⟨fun _ => id, fun _ => rfl, fun hclears hdenied => ?_⟩, ?_⟩
        · have hnone := hundenied hclears
          simp [denials, tallies, callTallies, answerTallies] at hdenied hnone
          omega
        · refine hpost true _ _ rfl rfl rfl (fun _ => rfl) ?_ ?_ ⟨?_, ?_, hready₁.fresh⟩
          · intro k hk
            revert hk
            cases k <;> simp [tallies, callTallies, answerTallies]
          · intro _
            simp only [count_append, count_cons, tallies, callTallies, if_true]
            omega
          · exact hready₁.facts.stop (by simp [hdispatch]) hlease answer
          · exact hready₁.stops.snoc (not_failedClose_answered (by simp))

/-- **`#cleanup`**, awaited.  It never fails, releases what it can, and reports whether that was all. -/
theorem safe_cleanup {post : Post callInterface Bool} (hready : Ready start op before own entry)
    (hlease : entry.state = .active → entry.leaseLost = true) (hundenied : op.Clears → denials own = 0)
    (hpost : ∀ clean entry' own', Cleaned entry entry' own own' clean → Ready start op before own' entry' →
      post (.ok clean) entry' own') :
    (cleanup binding).awaited.Safe ((callDiscipline binding start).contract op before) post entry own := by
  refine (Program.safe_awaited _ _ _).mpr ?_
  unfold cleanup
  rw [Program.safe_modify_bind]
  refine ⟨⟨?_, fun _ => rfl, ?_⟩, ?_⟩
  · intro _ harmed
    cases harmed
  · intro hclears hdenied
    have hnone := hundenied hclears
    omega
  rw [Program.safe_bind]
  refine safe_closeBridge hready.clear hlease hundenied ?_
  intro closed entry₁ own₁ hstate₁ hlost₁ hdispatch₁ hclosed hcount₁ hcloses hfacts₁ howing₁ hfresh₁
  have hundenied₁ : op.Clears → denials own₁ = 0 := by
    intro hclears
    have hnone := hundenied hclears
    unfold denials at hnone ⊢
    rw [hcount₁ .endingRefused (by simp), hcount₁ .endingThrew (by simp)]
    exact hnone
  have hlease₁ : entry₁.state = .active → entry₁.leaseLost = true := by
    rw [hstate₁, hlost₁]
    exact hlease
  show Program.Safe _ _ (stopDispatch binding >>= _) entry₁ own₁
  rw [Program.safe_bind]
  refine safe_stopDispatch hfacts₁ howing₁ hfresh₁ hlease₁ hundenied₁ ?_
  intro stopped entry₂ own₂ hstate₂ hlost₂ hclose₂ hstopped hcount₂ hstops hready₂
  refine ⟨hready₂, fun entry₃ hrely => ?_⟩
  have hready₃ := hready₂.rely hrely
  obtain ⟨timer, rfl⟩ := callRely.timer hrely
  refine hpost _ _ _ ⟨?_, ?_, ?_, ?_, ?_, ?_⟩ hready₃
  · exact hstate₂.trans hstate₁
  · exact hlost₂.trans hlost₁
  · intro hclean
    obtain ⟨hc, hs⟩ := Bool.and_eq_true_iff.mp hclean
    exact ⟨hclose₂.trans (hclosed hc), hstopped hs⟩
  · intro k hk
    simp only [List.mem_cons, List.not_mem_nil, or_false, not_or] at hk
    rw [hcount₂ k (by simp [hk]), hcount₁ k (by simp [hk])]
  · intro hne
    rw [hcount₂ .closeCalls (by simp)]
    exact hcloses hne
  · intro hne
    exact hstops (by rw [hdispatch₁]; exact hne)

end Cleanup

/-! ## Fallback, decisions and leaving the map -/

section Finish

variable {binding : TenantBinding} {start entry : Entry} {op : CallOp} {before : CallHistory}
  {own : List CallMark}

/-- **`handlePbxFallback`** in a `try`: complete, or anything else. -/
theorem safe_pbxFallback {post : Post callInterface Bool} {request : Entry → FallbackRequest}
    (hready : Ready start op before own entry)
    (hreleased : entry.closeMedia = none ∧ entry.dispatchId = none)
    (hfenced : Fenced op before own entry.state)
    (hpost : ∀ complete entry' own', callRely op entry entry' →
      Tallied own own' (fun k => if complete then k = .fallbackTrue else k = .fallbackFailed) →
      Ready start op before own' entry' → post (.ok complete) entry' own') :
    (pbxFallback request).Safe ((callDiscipline binding start).contract op before) post entry own := by
  have hcalled := hready.called (q := .handlePbxFallback (request entry)) (by simp) (by simp)
  unfold pbxFallback
  rw [Program.safe_get_bind]
  refine (Program.safe_attempt_request_bind _ _ _).mpr
    ⟨⟨hready.facts, hreleased.1, hreleased.2, hfenced⟩, hcalled, ?_⟩
  rintro entry₁ hrely (error | _ | _)
  · refine hpost false entry₁ _ hrely ?_
      ((hcalled.rely hrely).quiet quiet_fallback (not_failedClose_answered (by simp)))
    intro k
    simp [tallies, callTallies, answerTallies]
  · refine hpost false entry₁ _ hrely ?_
      ((hcalled.rely hrely).quiet quiet_fallback (not_failedClose_answered (by simp)))
    intro k
    simp [tallies, callTallies, answerTallies]
  · refine hpost true entry₁ _ hrely ?_
      ((hcalled.rely hrely).quiet quiet_fallback (not_failedClose_answered (by simp)))
    intro k
    simp [tallies, callTallies, answerTallies]

/-- The result of an operation that reports `reason`. -/
theorem safe_decision {reason : String} (hready : Ready start op before own entry)
    (hconcluded : Concluded op before own (.ok (.of reason)) entry) :
    (decision reason).Safe ((callDiscipline binding start).contract op before)
      ((callDiscipline binding start).post op before) entry own := by
  have hdecided := hready.decided reason
  unfold decision
  rw [Program.safe_output_bind]
  refine ⟨⟨hready.facts, trivial⟩, hdecided.facts, hdecided.stops, ?_⟩
  exact ⟨by simp, hconcluded.armed, by simpa [denials, tallies] using hconcluded.denied,
    by simpa [tallies] using hconcluded.lost⟩

/-- `calls.delete(entry.callId)`, and the result that follows. -/
theorem safe_forget {reason : String} (hready : Ready start op before own entry)
    (hgone : entry.state.Terminal ∨ op = .start ∧ 0 < count .connectingRefused own ∧
      tally .dispatchCalls (upTo before op own) = 0)
    (hconcluded : Concluded op before own (.ok (.of reason)) entry) :
    (do forget; decision reason : CallProgram Decision).Safe
      ((callDiscipline binding start).contract op before) ((callDiscipline binding start).post op before)
      entry own := by
  have hreleased : entry.closeMedia = none ∧ entry.dispatchId = none := by
    rcases hgone with hterminal | ⟨-, -, hnone⟩
    · exact hready.facts.released hterminal
    · obtain ⟨hbridges, hdispatches, hattached, hdispatched, -⟩ := hready.facts.resources
      constructor
      · by_contra hne
        rw [if_neg hne] at hbridges
        omega
      · by_contra hne
        rw [if_neg hne] at hdispatches
        omega
  have hforgotten : Ready start op before (own ++ [⟨entry, .emitted .forget⟩]) entry := by
    obtain ⟨hsame, hprogress, hresources, hundispatched, hrel, hforg, hheld, hlost⟩ := hready.facts
    refine ⟨⟨hsame, ?_, ?_, ?_, hrel, ?_, hheld, ?_⟩, hready.stops.snoc not_failedClose_emitted, hready.fresh⟩
    · exact hprogress.silent ⟨rfl, fun _ => rfl, fun _ _ => rfl⟩
    · refine hresources.of_counts rfl rfl fun k hk => ?_
      revert hk
      cases k <;> simp [tallies]
    · simpa [tallies] using hundispatched
    · intro _
      rcases hgone with hterminal | ⟨-, hrefused, hnone⟩
      · exact .inl hterminal
      · right
        simp [tallies] at hnone ⊢
        omega
    · simpa [tallies] using hlost
  unfold forget
  rw [Program.safe_output_bind]
  refine ⟨⟨hready.facts, hreleased.1, hreleased.2, hgone⟩, ?_⟩
  refine safe_decision hforgotten ⟨by simp, hconcluded.armed, ?_, ?_⟩
  · simpa [denials, tallies] using hconcluded.denied
  · simpa [tallies] using hconcluded.lost

end Finish

end Connector
end VoiceAssistants
