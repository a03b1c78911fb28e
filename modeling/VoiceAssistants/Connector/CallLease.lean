import VoiceAssistants.Connector.ControllerInvariants

/-!
# The lease of a call

**Liveness.**  `handleMediaFailure`, `handleCallHangup`, `#endCall` and the drain of `shutdown` clear the
renewal timer before they ask for `ending`.  When that is refused or throws, the entry stays active and tracked,
and nothing arms the timer again (`unrenewed_hangup`).  `lease_liveness` says that the renewals stop in no other
way.  `LeaseKept` is its invariant: an active call with its lease has an armed timer, a queued renewal or one
whose `finally` has still to run, unless an operation is in progress that will see to it.

**Loss.**  A renewal that is reported lost asks for `ending` and then releases the resources of the call.  When
the move throws, the rest of the renewal is skipped (`streaming_after_loss`); `lease_loss_teardown` says that
this is the only exception.
-/

namespace VoiceAssistants
namespace Connector

open Async ThreeCx

/-- A renewal of the call is due: the timer is armed, a renewal is queued, or the `finally` of one is. -/
def RenewalDue (cell : Cell) : Prop :=
  cell.monitor.state.leaseTimer = true ∨ 0 < renewals cell.monitor.waiting ∨ cell.renewalUnsettled = true

/-- Nothing is pending on the entry. -/
def Quiescent (cell : Cell) : Prop :=
  cell.monitor.Idle ∧ cell.renewalUnsettled = false

/-- In a quiescent state every tracked active call that has its lease has its renewal timer armed. -/
def Controller.LeaseLive (c : Controller) : Prop :=
  ∀ tracked ∈ c.calls, ∀ cell, c.cells tracked.2 = some cell → Quiescent cell →
    cell.monitor.state.state = .active → cell.monitor.state.leaseLost = false →
    cell.monitor.state.leaseTimer = true

/-- No operation that cleared the timer of an active call is denied its move to `ending` while no renewal of
the call is due. -/
def Controller.DeniesRenewable (c : Controller) (a : Action) : Prop :=
  ∀ id cell op input answer, c.cells id = some cell → c.Answers a id op (.transitionCall input) answer →
    op.Clears → input.newState = .ending → answer ≠ .ok true → cell.monitor.state.state = .active →
    cell.monitor.state.leaseLost = false → RenewalDue cell

/-- An active call that has its lease is renewed, or an operation in progress has not been denied its end. -/
def LeaseKept (cell : Cell) : Prop :=
  cell.monitor.state.state = .active → cell.monitor.state.leaseLost = false →
    RenewalDue cell ∨ ∃ turn, cell.monitor.running = some turn ∧ (turn.op.Clears → denials turn.marks = 0)

theorem denials_append (first second : List CallMark) :
    denials (first ++ second) = denials first + denials second := by
  simp only [denials, count_append]
  omega

/-- Only an answer denies a move. -/
theorem denials_fresh {made : List CallMark} (h : ∀ mark ∈ made, ∀ q answer, mark.event ≠ .answered q answer) :
    denials made = 0 := by
  have hzero : ∀ k, k = .endingRefused ∨ k = .endingThrew → count k made = 0 := by
    intro k hk
    refine List.countP_eq_zero.mpr fun mark hmem htally => ?_
    cases hevent : mark.event with
    | called q => rcases hk with rfl | rfl <;> cases q <;> simp [tallies, hevent, callTallies] at htally
    | answered q answer => exact h mark hmem q answer hevent
    | emitted output => rcases hk with rfl | rfl <;> cases output <;> simp [tallies, hevent] at htally
  simp [denials, hzero]

/-- What denies a move: an answer to a `transitionCall` to `ending` that is not `true`. -/
theorem denial_answer {respond : (q : Request) → Except String q.Answer} {state : Entry} {q : Request}
    (h : 0 < denials [⟨state, .answered q (respond q)⟩]) :
    ∃ input, q = .transitionCall input ∧ input.newState = .ending ∧ respond (.transitionCall input) ≠ .ok true := by
  cases q with
  | transitionCall input =>
      refine ⟨input, rfl, ?_⟩
      cases hanswer : respond (.transitionCall input) with
      | error error =>
          rw [hanswer] at h
          have hending : input.newState = .ending := by
            by_contra hne
            simp [denials, tallies, answerTallies, transitionTallies, hne] at h
          exact ⟨hending, by simp⟩
      | ok granted =>
          rw [hanswer] at h
          cases granted with
          | true => simp [denials, tallies, answerTallies, transitionTallies] at h
          | false =>
              have hending : input.newState = .ending := by
                by_contra hne
                simp [denials, tallies, answerTallies, transitionTallies, hne] at h
              refine ⟨hending, fun heq => ?_⟩
              injection heq with heq
              cases heq
  | _ =>
      revert h
      generalize respond _ = answer
      rcases answer with _ | _ | _ <;> simp [denials, tallies, answerTallies]

section Turn

variable {binding : TenantBinding} {start : Entry} {c : Controller} {a : Action} {id : Nat} {cell : Cell}
  {m' : CallMonitor}

/-- A turn of an operation that was denied its end finds a renewal due. -/
theorem due_of_denied {ticket : Nat} {op : CallOp} {resumed made : List CallMark}
    (hkept : LeaseKept cell) (hdenies : c.DeniesRenewable a) (hcell : c.cells id = some cell)
    (hturn : (callDiscipline binding start).Advanced cell.monitor m' ticket op resumed made)
    (hby : AnsweredBy a id cell.monitor ticket op resumed) (hclears : op.Clears)
    (hdenied : 0 < denials resumed) (hactive : cell.monitor.state.state = .active)
    (hleased : cell.monitor.state.leaseLost = false) :
    RenewalDue cell ∧ m'.waiting = cell.monitor.waiting := by
  have hrunning : ∀ own residual, cell.monitor.running = some ⟨ticket, op, own, residual⟩ → 0 < denials own →
      RenewalDue cell := by
    intro own residual hrun hpos
    rcases hkept hactive hleased with hdue | ⟨turn, hturn, hnone⟩
    · exact hdue
    · rw [hrun] at hturn
      obtain rfl := Option.some.inj hturn
      have hzero : denials own = 0 := hnone hclears
      omega
  cases hturn.cause with
  | begun idle head => simp [denials] at hdenied
  | resumed _ next paused queue => exact ⟨hrunning resumed _ paused hdenied, queue⟩
  | answered own q next answer inFlight queue =>
      refine ⟨?_, queue⟩
      by_cases hpos : 0 < denials own
      · exact hrunning own _ inFlight hpos
      · -- the answer of this turn is the denial
        obtain ⟨respond, action, rfl⟩ := hby own q next answer inFlight rfl
        rw [denials_append, Nat.eq_zero_of_not_pos hpos, Nat.zero_add] at hdenied
        obtain ⟨input, rfl, hending, hanswer⟩ := denial_answer hdenied
        exact hdenies id cell op input _ hcell
          ⟨respond, cell, ticket, own, next, action, hcell, inFlight, rfl⟩ hclears hending hanswer hactive hleased

/-- **A turn keeps the lease.** -/
theorem LeaseKept.turn {ticket : Nat} {op : CallOp} {resumed made : List CallMark}
    (hkept : LeaseKept cell) (hdenies : c.DeniesRenewable a) (hcell : c.cells id = some cell)
    (hturn : (callDiscipline binding start).Advanced cell.monitor m' ticket op resumed made)
    (hby : AnsweredBy a id cell.monitor ticket op resumed) :
    LeaseKept ⟨m', cell.renewalUnsettled || Controller.renewalFinished cell.monitor m'⟩ := by
  intro hactive hleased
  have hsame : denials (resumed ++ made) = denials resumed := by
    rw [denials_append, denials_fresh hturn.fresh, Nat.add_zero]
  have hdue : op.Clears → 0 < denials resumed →
      RenewalDue ⟨m', cell.renewalUnsettled || Controller.renewalFinished cell.monitor m'⟩ := by
    intro hclears hdenied
    have hstate : m'.state = cell.monitor.state := Writes.denied hturn.writes hclears (hsame ▸ hdenied)
    obtain ⟨hdue, hwaiting⟩ := due_of_denied hkept hdenies hcell hturn hby hclears hdenied
      (hstate ▸ hactive) (hstate ▸ hleased)
    rcases hdue with harmed | hqueued | hunsettled
    · exact .inl (hstate ▸ harmed)
    · exact .inr (.inl (hwaiting ▸ hqueued))
    · exact .inr (.inr (by simp [hunsettled]))
  rcases hturn.ends with ⟨result, hrun, hsettled, hpost⟩ | ⟨residual, hrun, hsettled, -⟩
  · left
    obtain ⟨-, -, hconcluded⟩ := hpost
    cases op with
    | start => exact .inl (hconcluded.armed rfl hactive)
    | renew => exact .inr (.inr (by simp [Controller.renewalFinished, hsettled]))
    | _ => exact hdue trivial (hsame ▸ hconcluded.denied trivial hactive)
  · by_cases hclears : op.Clears ∧ 0 < denials resumed
    · exact .inl (hdue hclears.1 hclears.2)
    · refine .inr ⟨_, hrun, fun hop => ?_⟩
      have hzero : denials resumed = 0 := by
        by_contra hpos
        exact hclears ⟨hop, by omega⟩
      exact hsame.trans hzero

/-- **Every change of an entry keeps the lease.** -/
theorem LeaseKept.change {cell' : Cell} (hkept : LeaseKept cell) (hdenies : c.DeniesRenewable a)
    (hcell : c.cells id = some cell) (hinv : CellInvariant binding start cell)
    (hchange : CellChange binding a id (some cell) (some cell')) : LeaseKept cell' := by
  cases hchange with
  | same => exact hkept
  | queued _ op notStart notRenew =>
      intro hactive hleased
      refine (hkept hactive hleased).imp_left (Or.imp_right (Or.imp_left fun hqueued => ?_))
      show 0 < renewals (cell.monitor.waiting ++ [(cell.monitor.issued, op)])
      rw [renewals, List.countP_append]
      exact Nat.add_pos_left hqueued _
  | fired _ armed =>
      intro _ _
      refine .inl (.inr (.inl ?_))
      show 0 < renewals (cell.monitor.waiting ++ [(cell.monitor.issued, .renew)])
      simp [renewals, List.countP_append]
  | rescheduled _ unsettled =>
      intro hactive hleased
      obtain ⟨timer, htimer⟩ := scheduleLeaseRenewal_timer cell.monitor.state
      have hactive' : cell.monitor.state.state = .active := by
        have hstate : (scheduleLeaseRenewal cell.monitor.state).state = .active := hactive
        rw [htimer] at hstate
        exact hstate
      have hleased' : cell.monitor.state.leaseLost = false := by
        have hstate : (scheduleLeaseRenewal cell.monitor.state).leaseLost = false := hleased
        rw [htimer] at hstate
        exact hstate
      refine .inl (.inl ?_)
      show (scheduleLeaseRenewal cell.monitor.state).leaseTimer = true
      by_cases harmed : cell.monitor.state.leaseTimer = true
      · simp [scheduleLeaseRenewal, harmed]
      · simp [scheduleLeaseRenewal, hactive', hleased', harmed]
  | ran _ monitor taken =>
      obtain ⟨-, ticket, op, resumed, made, hturn, hby⟩ := taken.advanced hinv.unstarted hinv.good
      exact hkept.turn hdenies hcell hturn hby

end Turn

/-- **Lease liveness.**  In a run in which no operation that cleared the timer is denied its end while no
renewal is due, every quiescent active call that has its lease has its timer armed. -/
theorem lease_liveness (binding : TenantBinding) (c : Controller)
    (h : Reaches Controller.step Controller.DeniesRenewable (Controller.initial binding) c) : c.LeaseLive := by
  have hkept : ∀ id cell, c.cells id = some cell → LeaseKept cell := by
    refine cell_reached ?_ ?_ h
    · intro entry hunstarted hactive
      have hclaimed : entry.state = .claimed := hunstarted.claimed
      rw [show (Monitor.opened entry CallOp.start : CallMonitor).state = entry from rfl, hclaimed] at hactive
      cases hactive
    · exact fun c a id start cell cell' hdenies hcell hinv hchange hkept =>
        hkept.change hdenies hcell hinv hchange
  rintro tracked - cell hcell ⟨⟨hidle, hempty⟩, hsettled⟩ hactive hleased
  rcases hkept tracked.2 cell hcell hactive hleased with (harmed | hqueued | hunsettled) | ⟨turn, hrun, -⟩
  · exact harmed
  · rw [hempty] at hqueued
    simp [renewals] at hqueued
  · rw [hsettled] at hunsettled
    cases hunsettled
  · rw [hidle] at hrun
    cases hrun

/-- A `transitionCall` is granted, or a renewal of the call is due. -/
def grantsOrDue (c : Controller) : Action → Bool
  | .opAnswer id respond => (c.cells id).all fun cell => cell.monitor.running.all fun turn =>
      match turn.residual with
      | .call (.transitionCall input) _ =>
          (match respond (.transitionCall input) with
            | .ok granted => granted
            | .error _ => false) || cell.monitor.state.leaseTimer ||
            decide (0 < renewals cell.monitor.waiting) || cell.renewalUnsettled
      | _ => true
  | _ => true

theorem deniesRenewable_of_grantsOrDue {c : Controller} {a : Action} (h : grantsOrDue c a = true) :
    c.DeniesRenewable a := by
  rintro id cell op input answer hcell ⟨respond, cell', ticket, own, next, rfl, hcell', hrun, rfl⟩ - - hdenied - -
  rw [hcell] at hcell'
  obtain rfl := Option.some.inj hcell'
  simp only [grantsOrDue, hcell, hrun, Option.all_some, Bool.or_eq_true, decide_eq_true_eq] at h
  rcases h with ((hgranted | harmed) | hqueued) | hunsettled
  · split at hgranted
    · rename_i granted hanswer
      exact absurd (hanswer.trans (by rw [hgranted])) hdenied
    · cases hgranted
  · exact .inl harmed
  · exact .inr (.inl hqueued)
  · exact .inr (.inr hunsettled)

/-- A hangup is refused its end right after a renewal, whose `finally` arms the timer again. -/
def refusedAfterRenewal : List Action :=
  let respond := Dependencies.willing.respond
  let refusing := { Dependencies.willing with transition := .ok false }.respond
  admitting 0 "call" "session" ++ activating 0 ++
    [.timerFires 0, .handleCallHangup (some "session") "agent_completed", .opBegin 0, .opAnswer 0 respond,
      .opBegin 0, .opAnswer 0 refusing, .opResume 0, .renewalSettled 0]

theorem lease_liveness_refusedAfterRenewal :
    (Controller.after refusedAfterRenewal).calls = [("call", 0)] ∧
      (Controller.after refusedAfterRenewal).LeaseLive := by
  refine ⟨by decide +kernel, lease_liveness sampleBinding _ ?_⟩
  exact Controller.reaches_checked (fun _ _ _ hok => deniesRenewable_of_grantsOrDue hok) (by decide +kernel)
    (by decide +kernel)

/-- A hangup of an active call is refused its end while no renewal is due. -/
def refusedHangup : List Action :=
  let refusing := { Dependencies.willing with transition := .ok false }.respond
  admitting 0 "call" "session" ++ activating 0 ++
    [.handleCallHangup (some "session") "agent_completed", .opBegin 0, .opAnswer 0 refusing, .opResume 0]

/-- A run after which an active call is never renewed again. -/
theorem unrenewed_hangup :
    ¬ ∀ c, Reaches Controller.step Always (Controller.initial sampleBinding) c → c.LeaseLive := by
  intro hclaim
  have hrun : (execute Controller.step (Controller.initial sampleBinding) refusedHangup).isSome = true := by
    decide +kernel
  have hcell : ((Controller.after refusedHangup).cells 0).any (fun cell =>
      cell.monitor.running.isNone && cell.monitor.waiting.isEmpty && !cell.renewalUnsettled &&
        decide (cell.monitor.state.state = .active) && !cell.monitor.state.leaseLost &&
        !cell.monitor.state.leaseTimer) = true := by
    decide +kernel
  obtain ⟨cell, hfound, hcheck⟩ := (Option.any_eq_true _ _).mp hcell
  simp only [Bool.and_eq_true, Option.isNone_iff_eq_none, List.isEmpty_iff, Bool.not_eq_true',
    decide_eq_true_eq] at hcheck
  obtain ⟨⟨⟨⟨⟨hidle, hempty⟩, hsettled⟩, hactive⟩, hleased⟩, hunarmed⟩ := hcheck
  have harmed := hclaim _ (Controller.reaches_after hrun) ("call", 0) (by decide +kernel) cell hfound
    ⟨⟨hidle, hempty⟩, hsettled⟩ hactive hleased
  rw [hunarmed] at harmed
  cases harmed

/-! ## Loss of the lease -/

/-- A renewal that was reported lost attempted to close the media and to stop the agent. -/
def TearsDown (marks : List CallMark) : Prop :=
  0 < count .closeCalls marks ∧ 0 < count .stopCalls marks

/-- Every settled renewal that was reported lost tore the call down. -/
def Controller.TearsDownLost (c : Controller) : Prop :=
  ∀ id cell episode, c.cells id = some cell → episode ∈ cell.monitor.settled → episode.op = .renew →
    0 < count .leaseLosses episode.marks → TearsDown episode.marks

/-- No renewal's move to `ending` throws. -/
def EndingAnswered : AnswerCondition
  | _, .renew, .transitionCall input, answer => input.newState = .ending → ∀ error, answer ≠ .error error
  | _, _, _, _ => True

/-- **Lease loss tears the local call down.**  In every run a settled renewal that was reported lost attempted to
release both resources exactly if its move to `ending` did not throw; in a run without such exceptions every lost
call is torn down. -/
theorem lease_loss_teardown (binding : TenantBinding) :
    (∀ c, Reaches Controller.step Always (Controller.initial binding) c →
      ∀ id cell episode, c.cells id = some cell → episode ∈ cell.monitor.settled → episode.op = .renew →
        0 < count .leaseLosses episode.marks →
        (TearsDown episode.marks ↔ count .endingThrew episode.marks = 0)) ∧
    ∀ c, Reaches Controller.step (Controller.Obeys EndingAnswered) (Controller.initial binding) c →
      c.TearsDownLost := by
  have htorn : ∀ c allowed, Reaches Controller.step allowed (Controller.initial binding) c →
      ∀ id cell episode, c.cells id = some cell → episode ∈ cell.monitor.settled → episode.op = .renew →
        0 < count .leaseLosses episode.marks →
        (TearsDown episode.marks ↔ count .endingThrew episode.marks = 0) := by
    intro c allowed h id cell episode hcell hmem hop hlost
    obtain ⟨start, hinv⟩ := (controllerInvariant_reached h).cells id cell hcell
    exact hinv.torn episode hmem hop hlost
  refine ⟨fun c h => htorn c Always h, ?_⟩
  intro c h id cell episode hcell hmem hop hlost
  refine (htorn c _ h id cell episode hcell hmem hop hlost).mpr ?_
  obtain ⟨done, after, hsettled⟩ := List.append_of_mem hmem
  have hmade : cell.monitor.Made (historyOf done) episode.op (episode.marks ++ []) := by
    rw [List.append_nil]
    exact .finished done episode after hsettled
  refine count_eq_zero_of_obeys h hcell hmade (fun q => by cases q <;> rfl) (by simp) ?_
  intro earlier entry q answer htally
  cases q with
  | transitionCall input =>
      rcases answer with error | _ | _ <;> simp [answerTallies, transitionTallies] at htally
      simp [EndingAnswered, hop, htally]
  | _ => rcases answer with _ | _ | _ <;> simp [answerTallies] at htally

/-- A dependency that does not throw in transitions meets the condition. -/
theorem endingAnswered_of_transition {d : Dependencies} {granted : Bool} (h : d.transition = .ok granted)
    (history : CallHistory) (op : CallOp) (q : Request) : EndingAnswered history op q (d.respond q) := by
  cases op with
  | renew =>
      cases q with
      | transitionCall input =>
          intro _ error hthrew
          have hsame : d.transition = .error error := hthrew
          rw [h] at hsame
          cases hsame
      | _ => trivial
  | _ => trivial

/-- The renewal of an active call is refused, and so is its move to `ending`. -/
def lostRenewal : List Action :=
  let respond := Dependencies.willing.respond
  let refusing := { Dependencies.willing with renew := .ok false, transition := .ok false }.respond
  admitting 0 "call" "session" ++ activating 0 ++
    [.timerFires 0, .opBegin 0, .opAnswer 0 refusing, .opAnswer 0 refusing, .opResume 0, .opAnswer 0 respond,
      .opAnswer 0 respond, .opResume 0, .opAnswer 0 respond]

theorem lease_loss_teardown_lostRenewal :
    ((Controller.after lostRenewal).entry 0).map (fun entry => (entry.closeMedia, entry.dispatchId)) =
        some (none, none) ∧
      (Controller.after lostRenewal).TearsDownLost := by
  refine ⟨by decide +kernel, (lease_loss_teardown sampleBinding).2 _ ?_⟩
  refine Controller.reaches_meeting ?_ (by decide +kernel)
  have hwilling : ∀ history op q, EndingAnswered history op q (Dependencies.willing.respond q) :=
    endingAnswered_of_transition rfl
  have hrefusing : ∀ history op q, EndingAnswered history op q
      ({ Dependencies.willing with renew := .ok false, transition := .ok false }.respond q) :=
    endingAnswered_of_transition rfl
  simp [lostRenewal, admitting, activating, Action.Meets, hwilling, hrefusing]

/-- The renewal of an active call is refused and its move to `ending` throws. -/
def throwingRenewal : List Action :=
  let throwing := { Dependencies.willing with renew := .ok false, transition := .error "timeout" }.respond
  admitting 0 "call" "session" ++ activating 0 ++
    [.timerFires 0, .opBegin 0, .opAnswer 0 throwing, .opAnswer 0 throwing, .opResume 0]

/-- A run in which a lost call keeps its media and its agent. -/
theorem streaming_after_loss :
    ¬ ∀ c, Reaches Controller.step Always (Controller.initial sampleBinding) c → c.TearsDownLost := by
  intro hclaim
  have hrun : (execute Controller.step (Controller.initial sampleBinding) throwingRenewal).isSome = true := by
    decide +kernel
  have hcell : ((Controller.after throwingRenewal).cells 0).any (fun cell =>
      cell.monitor.settled.any fun episode =>
        decide (episode.op = .renew) && decide (0 < count .leaseLosses episode.marks) &&
          count .closeCalls episode.marks == 0) = true := by
    decide +kernel
  obtain ⟨cell, hfound, hsettled⟩ := (Option.any_eq_true _ _).mp hcell
  obtain ⟨episode, hmem, hcheck⟩ := List.any_eq_true.mp hsettled
  simp only [Bool.and_eq_true, decide_eq_true_eq, beq_iff_eq] at hcheck
  obtain ⟨⟨hop, hlost⟩, hnone⟩ := hcheck
  have hclosed := (hclaim _ (Controller.reaches_after hrun) 0 cell episode hfound hmem hop hlost).1
  omega

end Connector
end VoiceAssistants
