import VoiceAssistants.Async.Turns
import VoiceAssistants.Connector.CallController
import VoiceAssistants.Connector.CallSafety

/-!
# The invariant of one entry with its queue

`CellInvariant` says of a cell that its monitor is good for the contracts of the operations, that its first
operation is `#startCall` and no other is, and how its renewals are accounted for (`Timers`):

* a renewal is an armed timer, a queued or running `#renewLease`, or a settled one whose `finally` has not run;
  there is at most one at a time;
* there is none before `#startCall` has settled, and none but the running one once the lease is lost.

`CellChange` lists what one step of the controller can do to a cell, and `CellInvariant.change` shows that
all of it keeps the invariant.
-/

namespace VoiceAssistants
namespace Connector

open Async ThreeCx

/-- The queued renewals. -/
def renewals (waiting : List (Nat × CallOp)) : Nat :=
  waiting.countP fun queued => queued.2 = .renew

/-- A renewal is in progress. -/
def renewing (m : CallMonitor) : Bool :=
  m.running.any fun turn => turn.op = .renew

/-- How many renewals of the call there are, from the armed timer to the `finally`. -/
def tokens (cell : Cell) : Nat :=
  (if cell.monitor.state.leaseTimer then 1 else 0) + renewals cell.monitor.waiting +
    (if renewing cell.monitor then 1 else 0) + if cell.renewalUnsettled then 1 else 0

/-- How the renewals of a call are accounted for. -/
structure Timers (cell : Cell) : Prop where
  asleep : cell.monitor.settled = [] →
    cell.monitor.state.leaseTimer = false ∧ cell.monitor.state.leaseLost = false ∧
      renewals cell.monitor.waiting = 0 ∧ cell.renewalUnsettled = false
  single : tokens cell ≤ 1
  spent : cell.monitor.state.leaseLost = true →
    cell.monitor.state.leaseTimer = false ∧ renewals cell.monitor.waiting = 0
  leased : renewing cell.monitor = true → tally .leaseLosses (historyOf cell.monitor.settled) = 0

/-- A settled renewal that was reported lost attempted to release both resources, unless its move to `ending`
threw. -/
def TornDown (episode : Episode callInterface CallOp Decision) : Prop :=
  episode.op = .renew → 0 < count .leaseLosses episode.marks →
    (0 < count .closeCalls episode.marks ∧ 0 < count .stopCalls episode.marks ↔
      count .endingThrew episode.marks = 0)

/-- The invariant of a cell whose entry was created as `start`. -/
structure CellInvariant (binding : TenantBinding) (start : Entry) (cell : Cell) : Prop where
  unstarted : Unstarted start
  good : (callDiscipline binding start).Good start .start cell.monitor
  agenda : ∃ rest, cell.monitor.agenda = (0, .start) :: rest ∧ ∀ queued ∈ rest, queued.2 ≠ .start
  tickets : cell.monitor.agenda.map Prod.fst = List.range cell.monitor.issued
  timers : Timers cell
  torn : ∀ episode ∈ cell.monitor.settled, TornDown episode

section Facts

variable {binding : TenantBinding} {start : Entry} {cell : Cell}

/-- The facts hold of every call at every moment. -/
theorem CellInvariant.facts (h : CellInvariant binding start cell) :
    CallFacts start cell.monitor.state cell.monitor.history := by
  cases hrun : cell.monitor.running with
  | some turn =>
      have hunderway := h.good.running turn hrun
      have hready : Ready start turn.op (historyOf cell.monitor.settled) turn.marks cell.monitor.state :=
        hunderway.resting.suspends hunderway.suspended
      rw [Monitor.history, hrun]
      exact hready.facts
  | none =>
      by_cases hsettled : cell.monitor.settled = []
      · obtain ⟨hrely, -⟩ := h.good.unopened hrun hsettled
        have hstate : cell.monitor.state = start := hrely
        rw [hstate]
        simpa [Monitor.history, hrun, hsettled, historyOf] using h.unstarted.facts
      · have hfacts : CallFacts start cell.monitor.state (historyOf cell.monitor.settled) :=
          h.good.rests hrun hsettled
        simpa [Monitor.history, hrun] using hfacts

theorem CellInvariant.callId (h : CellInvariant binding start cell) :
    cell.monitor.state.callId = start.callId :=
  h.facts.same.1

/-- In every operation a failed close is followed by an attempt to stop the agent. -/
theorem CellInvariant.stopFollows (h : CellInvariant binding start cell) {before : CallHistory} {op : CallOp}
    {marks : List CallMark} (hmade : cell.monitor.Made before op marks) : StopFollows marks := by
  cases hmade with
  | finished done episode after hsettled =>
      obtain ⟨-, state, -, hstops, -⟩ := h.good.episodes done episode after hsettled
      exact hstops
  | inProgress turn hrun =>
      have hunderway := h.good.running turn hrun
      have hready : Ready start turn.op (historyOf cell.monitor.settled) turn.marks cell.monitor.state :=
        hunderway.resting.suspends hunderway.suspended
      exact hready.stops

theorem cellInvariant_opened (h : Unstarted start) :
    CellInvariant binding start ⟨Monitor.opened start .start, false⟩ where
  unstarted := h
  good := Discipline.good_opened (callDiscipline_sound binding h)
  agenda := ⟨[], rfl, by simp⟩
  tickets := rfl
  timers := by
    refine ⟨fun _ => ⟨h.unarmed, h.leased, rfl, rfl⟩, ?_, ?_, ?_⟩
    · simp [tokens, Monitor.opened, h.unarmed, renewals, renewing]
    · simp [Monitor.opened, h.unarmed, renewals]
    · simp [Monitor.opened, renewing]
  torn := by simp [Monitor.opened]

end Facts

/-! ## What a turn of an operation does to the renewals -/

section Turn

variable {binding : TenantBinding} {start : Entry} {m m' : CallMonitor} {ticket : Nat} {op : CallOp}
  {resumed made : List CallMark}

/-- The turn of an operation takes the operation's renewal from the queue or from the turn before. -/
theorem renewals_cause (h : Cause m m'.waiting ticket op resumed) :
    renewals m.waiting + (if renewing m then 1 else 0) =
      renewals m'.waiting + if op = .renew then 1 else 0 := by
  cases h with
  | begun idle head => simp [renewing, idle, head, renewals, List.countP_cons]
  | answered own q next answer inFlight queue => simp [renewing, inFlight, queue]
  | resumed own next paused queue => simp [renewing, paused, queue]

/-- A renewal in progress is the operation whose turn it is. -/
theorem renewing_cause (h : Cause m m'.waiting ticket op resumed) (hrenewing : renewing m = true) :
    op = .renew := by
  cases h with
  | begun idle head => simp [renewing, idle] at hrenewing
  | answered own q next answer inFlight queue => simpa [renewing, inFlight] using hrenewing
  | resumed own next paused queue => simpa [renewing, paused] using hrenewing

/-- `#startCall` is the first operation and the only one of its kind. -/
theorem start_iff_settled (h : Cause m m'.waiting ticket op resumed)
    (hagenda : ∃ rest, m.agenda = (0, .start) :: rest ∧ ∀ queued ∈ rest, queued.2 ≠ .start) :
    op = .start ↔ m.settled = [] := by
  obtain ⟨rest, hhead, hrest⟩ := hagenda
  rw [h.agenda] at hhead
  cases hsettled : m.settled with
  | nil =>
      rw [hsettled] at hhead
      have hfirst := (List.cons.inj hhead).1
      simpa using (Prod.mk.inj hfirst).2
  | cons episode settled =>
      rw [hsettled] at hhead
      have hmem : (ticket, op) ∈ rest := by
        rw [← (List.cons.inj hhead).2]
        simp
      simpa using hrest _ hmem

/-- Whether a renewal goes on or has settled. -/
theorem renewing_ends
    (h : (callDiscipline binding start).Advanced m m' ticket op resumed made) :
    (if renewing m' then 1 else 0) + (if Controller.renewalFinished m m' then 1 else 0) =
      if op = .renew then 1 else 0 := by
  rcases h.ends with ⟨result, hrun, hsettled, -⟩ | ⟨residual, hrun, hsettled, -⟩
  · simp [renewing, Controller.renewalFinished, hrun, hsettled]
  · simp [renewing, Controller.renewalFinished, hrun, hsettled]

/-- Only `#startCall` arms a timer. -/
theorem Writes.unarmed {before : CallHistory} {own own' : List CallMark} {entry entry' : Entry}
    (h : Program.Writes ((callDiscipline binding start).contract op before) own entry entry' own')
    (hop : op ≠ .start) (harmed : entry'.leaseTimer = true) : entry.leaseTimer = true := by
  induction h with
  | refl own state => exact harmed
  | write hwrite rest ih => exact WriteKept.unarmed hwrite hop (ih harmed)
  | mark mark rest ih => exact ih harmed

/-- Only a renewal sets `leaseLost`. -/
theorem Writes.lease {before : CallHistory} {own own' : List CallMark} {entry entry' : Entry}
    (h : Program.Writes ((callDiscipline binding start).contract op before) own entry entry' own')
    (hop : op ≠ .renew) : entry'.leaseLost = entry.leaseLost := by
  induction h with
  | refl own state => rfl
  | write hwrite rest ih => exact ih.trans (WriteKept.lease hwrite hop)
  | mark mark rest ih => exact ih

/-- After its move to `ending` was denied, an operation that cleared the timer leaves the entry alone. -/
theorem Writes.denied {before : CallHistory} {own own' : List CallMark} {entry entry' : Entry}
    (h : Program.Writes ((callDiscipline binding start).contract op before) own entry entry' own')
    (hop : op.Clears) (hdenied : 0 < denials own) : entry' = entry := by
  induction h with
  | refl own state => rfl
  | write hwrite rest ih => exact (ih hdenied).trans (WriteKept.denied hwrite hop hdenied)
  | mark mark rest ih =>
      refine ih ?_
      simp only [denials, count_append] at hdenied ⊢
      omega

/-- The lease was not lost before the renewal whose turn it is. -/
theorem Timers.renewal {unsettled : Bool} (h : Timers ⟨m, unsettled⟩)
    (hagenda : ∃ rest, m.agenda = (0, .start) :: rest ∧ ∀ queued ∈ rest, queued.2 ≠ .start)
    (hgood : (callDiscipline binding start).Good start .start m)
    (hcause : Cause m m'.waiting ticket .renew resumed) :
    tally .leaseLosses (historyOf m.settled) = 0 := by
  by_cases hwas : renewing m = true
  · exact h.leased hwas
  · have hqueue := renewals_cause hcause
    rw [if_neg hwas, if_pos rfl] at hqueue
    have hsettled : m.settled ≠ [] := fun hnil => by
      have hstart := (start_iff_settled hcause hagenda).mpr hnil
      cases hstart
    have hidle : m.running = none := by
      cases hcause with
      | begun idle head => exact idle
      | answered own q next answer inFlight queue => simp [renewing, inFlight] at hwas
      | resumed own next paused queue => simp [renewing, paused] at hwas
    have hfacts : CallFacts start m.state (historyOf m.settled) := hgood.rests hidle hsettled
    by_contra hpos
    obtain ⟨-, hnone⟩ := h.spent (hfacts.lost.mpr (by omega))
    have hnone' : renewals m.waiting = 0 := hnone
    omega

/-- A turn keeps the account of the renewals. -/
theorem Timers.turn {unsettled : Bool} (h : Timers ⟨m, unsettled⟩)
    (hagenda : ∃ rest, m.agenda = (0, .start) :: rest ∧ ∀ queued ∈ rest, queued.2 ≠ .start)
    (hgood : (callDiscipline binding start).Good start .start m)
    (hturn : (callDiscipline binding start).Advanced m m' ticket op resumed made) :
    Timers ⟨m', unsettled || Controller.renewalFinished m m'⟩ := by
  obtain ⟨hasleep, hsingle, hspent, hleased⟩ := h
  have hqueue := renewals_cause hturn.cause
  have hends := renewing_ends hturn
  have hstart := start_iff_settled hturn.cause hagenda
  have hunsettled : (if (unsettled || Controller.renewalFinished m m') then 1 else 0) ≤
      (if unsettled then 1 else 0) + if Controller.renewalFinished m m' then 1 else 0 := by
    cases unsettled <;> simp
  simp only [tokens] at hasleep hsingle hspent hleased
  by_cases hop : op = .start
  · -- `#startCall`: no renewal exists yet
    obtain ⟨hunarmed, hkept, hnone, hfalse⟩ := hasleep (hstart.mp hop)
    have hrenew : op ≠ .renew := by
      rw [hop]
      simp
    have hlost : m'.state.leaseLost = false := (Writes.lease hturn.writes hrenew).trans hkept
    have hidle : ¬ renewing m = true := fun h => hrenew (renewing_cause hturn.cause h)
    have hnone' : renewals m.waiting = 0 := hnone
    rw [if_neg hrenew, if_neg hidle] at hqueue
    rw [if_neg hrenew] at hends
    refine ⟨?_, ?_, ?_, ?_⟩
    · intro hsettled'
      rcases hturn.ends with ⟨result, -, hsettled, -⟩ | ⟨residual, -, -, hready⟩
      · exact absurd (hsettled.symm.trans hsettled') (by simp)
      · have hfresh := Ready.fresh hready hop
        refine ⟨hfresh.1, hfresh.2, by show renewals m'.waiting = 0; omega, ?_⟩
        rw [hfalse]
        cases hfinished : Controller.renewalFinished m m' with
        | false => rfl
        | true =>
            rw [hfinished] at hends
            simp at hends
    · have harmed : (if m'.state.leaseTimer then 1 else 0) ≤ 1 := by split <;> omega
      rw [hfalse] at hunsettled
      simp only [tokens, hfalse]
      simp only [Bool.false_eq_true, if_false] at hunsettled
      omega
    · intro hlost'
      simp [hlost] at hlost'
    · intro hrenewing
      have hrenewing' : renewing m' = true := hrenewing
      rw [hrenewing'] at hends
      simp at hends
  · have hsettled : m.settled ≠ [] := fun hnil => hop (hstart.mpr hnil)
    have harmed : (if m'.state.leaseTimer then 1 else 0) ≤ if m.state.leaseTimer then 1 else 0 := by
      by_cases harmed' : m'.state.leaseTimer = true
      · rw [if_pos harmed', if_pos (Writes.unarmed hturn.writes hop harmed')]
      · rw [if_neg harmed']
        exact Nat.zero_le _
    have hsettled' : m'.settled ≠ [] := by
      rcases hturn.ends with ⟨result, -, hs, -⟩ | ⟨residual, -, hs, -⟩
      · simp [hs]
      · rw [hs]
        exact hsettled
    refine ⟨fun hnil => absurd hnil hsettled', ?_, ?_, ?_⟩
    · simp only [tokens]
      omega
    · intro hlost
      by_cases hrenew : op = .renew
      · rw [if_pos hrenew] at hqueue
        have hunarmed : m'.state.leaseTimer = false := by
          by_contra harmed'
          rw [Bool.not_eq_false] at harmed'
          rw [if_pos harmed'] at harmed
          omega
        exact ⟨hunarmed, by show renewals m'.waiting = 0; omega⟩
      · have hlost' := (Writes.lease hturn.writes hrenew).symm.trans hlost
        obtain ⟨hunarmed, hnone⟩ := hspent hlost'
        have hnone' : renewals m.waiting = 0 := hnone
        have hidle : ¬ renewing m = true := fun h => hrenew (renewing_cause hturn.cause h)
        rw [if_neg hrenew, if_neg hidle] at hqueue
        refine ⟨?_, by show renewals m'.waiting = 0; omega⟩
        by_contra harmed'
        rw [Bool.not_eq_false] at harmed'
        have := Writes.unarmed hturn.writes hop harmed'
        rw [hunarmed] at this
        cases this
    · intro hrenewing
      have hrenewing' : renewing m' = true := hrenewing
      have hrenew : op = .renew := by
        by_contra hne
        rw [if_neg hne, hrenewing'] at hends
        simp at hends
      have hsame : m'.settled = m.settled := by
        rcases hturn.ends with ⟨result, hrun, -, -⟩ | ⟨residual, -, hs, -⟩
        · simp [renewing, hrun] at hrenewing'
        · exact hs
      show tally .leaseLosses (historyOf m'.settled) = 0
      rw [hsame]
      subst hrenew
      exact Timers.renewal ⟨hasleep, hsingle, hspent, hleased⟩ hagenda hgood hturn.cause

/-- A turn that settles a renewal tears the call down. -/
theorem torn_turn {unsettled : Bool} (h : Timers ⟨m, unsettled⟩)
    (hgood : (callDiscipline binding start).Good start .start m)
    (hagenda : ∃ rest, m.agenda = (0, .start) :: rest ∧ ∀ queued ∈ rest, queued.2 ≠ .start)
    (htorn : ∀ episode ∈ m.settled, TornDown episode)
    (hturn : (callDiscipline binding start).Advanced m m' ticket op resumed made) :
    ∀ episode ∈ m'.settled, TornDown episode := by
  rcases hturn.ends with ⟨result, -, hsettled, hpost⟩ | ⟨residual, -, hsettled, -⟩
  · rw [hsettled]
    intro episode hmem
    rcases List.mem_append.mp hmem with hmem | hmem
    · exact htorn episode hmem
    · obtain rfl := List.mem_singleton.mp hmem
      intro hop hlost
      obtain ⟨-, -, hconcluded⟩ := hpost
      obtain rfl : op = .renew := hop
      exact hconcluded.lost rfl (h.renewal hagenda hgood hturn.cause) hlost
  · rw [hsettled]
    exact htorn

end Turn

/-! ## Steps of a cell -/

/-- A step of the operation in progress, or the start of the next one. -/
inductive MonitorStep (binding : TenantBinding) (a : Action) (id : Nat) (m m' : CallMonitor) : Prop
  | begun (action : a = .opBegin id) (taken : m.begin (CallOp.body binding) = some m')
  | answered (respond : (q : Request) → Except String q.Answer) (action : a = .opAnswer id respond)
      (taken : m.answer respond = some m')
  | resumed (action : a = .opResume id) (taken : m.resume = some m')

/-- What a step of the controller can do to the cell `id`. -/
inductive CellChange (binding : TenantBinding) (a : Action) (id : Nat) : Option Cell → Option Cell → Prop
  | same (old : Option Cell) : CellChange binding a id old old
  | opened (entry : Entry) (unstarted : Unstarted entry) :
      CellChange binding a id none (some ⟨Monitor.opened entry .start, false⟩)
  | queued (cell : Cell) (op : CallOp) (notStart : op ≠ .start) (notRenew : op ≠ .renew) :
      CellChange binding a id (some cell) (some { cell with monitor := cell.monitor.enqueue op })
  | fired (cell : Cell) (armed : cell.monitor.state.leaseTimer = true) :
      CellChange binding a id (some cell)
        (some { cell with monitor := (cell.monitor.touch clearLeaseRenewal).enqueue .renew })
  | rescheduled (cell : Cell) (unsettled : cell.renewalUnsettled = true) :
      CellChange binding a id (some cell) (some ⟨cell.monitor.touch scheduleLeaseRenewal, false⟩)
  | ran (cell : Cell) (monitor : CallMonitor) (taken : MonitorStep binding a id cell.monitor monitor) :
      CellChange binding a id (some cell)
        (some ⟨monitor, cell.renewalUnsettled || Controller.renewalFinished cell.monitor monitor⟩)

section Change

variable {binding : TenantBinding} {a : Action} {id : Nat} {start : Entry} {cell cell' : Cell}
  {m m' : CallMonitor}

/-- The answer a turn got is the one the action delivers. -/
def AnsweredBy (a : Action) (id : Nat) (m : CallMonitor) (ticket : Nat) (op : CallOp)
    (resumed : List CallMark) : Prop :=
  ∀ own q next answer, m.running = some ⟨ticket, op, own, .call q next⟩ →
    resumed = own ++ [⟨m.state, .answered q answer⟩] → ∃ respond, a = .opAnswer id respond ∧ answer = respond q

/-- The effect of a step of a good monitor. -/
theorem MonitorStep.advanced (hstart : Unstarted start)
    (h : (callDiscipline binding start).Good start .start m) (hstep : MonitorStep binding a id m m') :
    (callDiscipline binding start).Good start .start m' ∧
      ∃ ticket op resumed made, (callDiscipline binding start).Advanced m m' ticket op resumed made ∧
        AnsweredBy a id m ticket op resumed := by
  have hsound := callDiscipline_sound binding hstart
  cases hstep with
  | begun action taken =>
      obtain ⟨ticket, op, made, hturn⟩ := h.begin_advanced hsound taken
      refine ⟨h.begin hsound taken, ticket, op, [], made, hturn, ?_⟩
      intro own q next answer _ hresumed
      simp at hresumed
  | answered respond action taken =>
      obtain ⟨ticket, op, own, q, next, made, hrun, hturn⟩ := h.answer_advanced hsound taken
      refine ⟨h.answer hsound taken, ticket, op, _, made, hturn, ?_⟩
      intro own' q' next' answer _ hresumed
      obtain ⟨-, hlast⟩ := List.append_inj' hresumed rfl
      cases List.singleton_injective hlast
      exact ⟨respond, action, rfl⟩
  | resumed action taken =>
      obtain ⟨ticket, op, own, made, hturn⟩ := h.resume_advanced hsound taken
      refine ⟨h.resume hsound taken, ticket, op, own, made, hturn, ?_⟩
      intro own' q next answer hrun _
      obtain ⟨_, _, _, _, hpaused, -⟩ := Monitor.resume_eq_some taken
      rw [hpaused] at hrun
      cases hrun

/-- Once an operation has settled, the one in progress is not `#startCall`. -/
theorem CellInvariant.running_ne_start (h : CellInvariant binding start cell)
    (hsettled : cell.monitor.settled ≠ []) {turn : Turn callInterface CallOp Decision}
    (hrun : cell.monitor.running = some turn) : turn.op ≠ .start := by
  obtain ⟨rest, hhead, hrest⟩ := h.agenda
  cases hlist : cell.monitor.settled with
  | nil => exact absurd hlist hsettled
  | cons episode settled =>
      rw [Monitor.agenda, hlist, hrun] at hhead
      refine hrest (turn.ticket, turn.op) ?_
      rw [← (List.cons.inj hhead).2]
      simp

/-- Arming or disarming the timer once `#startCall` has settled. -/
theorem CellInvariant.touch (h : CellInvariant binding start cell) (hsettled : cell.monitor.settled ≠ [])
    {f : Entry → Entry} (hf : ∃ timer, f cell.monitor.state = { cell.monitor.state with leaseTimer := timer }) :
    (callDiscipline binding start).Good start .start (cell.monitor.touch f) := by
  obtain ⟨timer, hf⟩ := hf
  refine h.good.touch (callDiscipline_sound binding h.unstarted) ?_ ?_ ?_
  · intro turn hrun
    rw [hf]
    exact callRely_of_timer (h.running_ne_start hsettled hrun) timer
  · exact fun _ hnil => absurd hnil hsettled
  · exact fun _ _ => ⟨timer, hf⟩

theorem scheduleLeaseRenewal_timer (entry : Entry) :
    ∃ timer, scheduleLeaseRenewal entry = { entry with leaseTimer := timer } := by
  unfold scheduleLeaseRenewal
  split
  · exact ⟨entry.leaseTimer, rfl⟩
  · exact ⟨true, rfl⟩

/-- The agenda of a queue that grew. -/
theorem agenda_enqueue {op : CallOp} (hop : op ≠ .start)
    (h : ∃ rest, m.agenda = (0, .start) :: rest ∧ ∀ queued ∈ rest, queued.2 ≠ .start) :
    ∃ rest, (m.enqueue op).agenda = (0, .start) :: rest ∧ ∀ queued ∈ rest, queued.2 ≠ .start := by
  obtain ⟨rest, hhead, hrest⟩ := h
  refine ⟨rest ++ [(m.issued, op)], by simp [hhead], ?_⟩
  intro queued hmem
  rcases List.mem_append.mp hmem with hmem | hmem
  · exact hrest queued hmem
  · rw [List.mem_singleton.mp hmem]
    exact hop

theorem tickets_enqueue {op : CallOp} (h : m.agenda.map Prod.fst = List.range m.issued) :
    (m.enqueue op).agenda.map Prod.fst = List.range (m.enqueue op).issued := by
  have hissued : (m.enqueue op).issued = m.issued + 1 := rfl
  rw [Monitor.enqueue_agenda, hissued, List.map_append, h, List.range_succ]
  rfl

/-- **Every step keeps the invariant of a cell.** -/
theorem CellInvariant.change (h : CellInvariant binding start cell)
    (hchange : CellChange binding a id (some cell) (some cell')) : CellInvariant binding start cell' := by
  obtain ⟨hasleep, hsingle, hspent, hleased⟩ := h.timers
  cases hchange with
  | same => exact h
  | queued _ op notStart notRenew =>
      have hsame : renewals (cell.monitor.waiting ++ [(cell.monitor.issued, op)]) =
          renewals cell.monitor.waiting := by
        simp [renewals, List.countP_append, notRenew]
      refine ⟨h.unstarted, h.good.enqueue notStart, agenda_enqueue notStart h.agenda,
        tickets_enqueue h.tickets, ⟨?_, ?_, ?_, hleased⟩, h.torn⟩
      · intro hnil
        obtain ⟨hunarmed, hkept, hnone, hfalse⟩ := hasleep hnil
        exact ⟨hunarmed, hkept, hsame.trans hnone, hfalse⟩
      · show (if cell.monitor.state.leaseTimer then 1 else 0) +
          renewals (cell.monitor.waiting ++ [(cell.monitor.issued, op)]) +
          (if renewing cell.monitor then 1 else 0) + (if cell.renewalUnsettled then 1 else 0) ≤ 1
        rw [hsame]
        exact hsingle
      · intro hlost
        obtain ⟨hunarmed, hnone⟩ := hspent hlost
        exact ⟨hunarmed, hsame.trans hnone⟩
  | fired _ armed =>
      have hsettled : cell.monitor.settled ≠ [] := fun hnil => by
        have hunarmed := (hasleep hnil).1
        rw [armed] at hunarmed
        cases hunarmed
      have hgood := h.touch hsettled (f := clearLeaseRenewal) ⟨false, rfl⟩
      refine ⟨h.unstarted, hgood.enqueue (by simp [callDiscipline]), agenda_enqueue (by simp) h.agenda,
        tickets_enqueue h.tickets, ⟨fun hnil => absurd hnil hsettled, ?_, ?_, hleased⟩, h.torn⟩
      · have hone : renewals (cell.monitor.waiting ++ [(cell.monitor.issued, .renew)]) =
            renewals cell.monitor.waiting + 1 := by
          simp [renewals, List.countP_append]
        simp only [tokens, armed, if_true] at hsingle
        show 0 + renewals (cell.monitor.waiting ++ [(cell.monitor.issued, .renew)]) +
          (if renewing cell.monitor then 1 else 0) + (if cell.renewalUnsettled then 1 else 0) ≤ 1
        rw [hone]
        omega
      · intro hlost
        have hunarmed := (hspent hlost).1
        rw [armed] at hunarmed
        cases hunarmed
  | rescheduled _ unsettled =>
      have hsettled : cell.monitor.settled ≠ [] := fun hnil => by
        have hfalse := (hasleep hnil).2.2.2
        rw [unsettled] at hfalse
        cases hfalse
      have hgood := h.touch hsettled (scheduleLeaseRenewal_timer cell.monitor.state)
      obtain ⟨timer, htimer⟩ := scheduleLeaseRenewal_timer cell.monitor.state
      refine ⟨h.unstarted, hgood, h.agenda, h.tickets,
        ⟨fun hnil => absurd hnil hsettled, ?_, ?_, hleased⟩, h.torn⟩
      · simp only [tokens, unsettled, if_true] at hsingle
        have hle : (if (scheduleLeaseRenewal cell.monitor.state).leaseTimer then 1 else 0) ≤ 1 := by
          split <;> omega
        show (if (scheduleLeaseRenewal cell.monitor.state).leaseTimer then 1 else 0) +
          renewals cell.monitor.waiting + (if renewing cell.monitor then 1 else 0) + 0 ≤ 1
        omega
      · intro hlost
        have hlost' : cell.monitor.state.leaseLost = true := by
          have hstate : (scheduleLeaseRenewal cell.monitor.state).leaseLost = true := hlost
          rw [htimer] at hstate
          exact hstate
        obtain ⟨hunarmed, hnone⟩ := hspent hlost'
        refine ⟨?_, hnone⟩
        show (scheduleLeaseRenewal cell.monitor.state).leaseTimer = false
        simp [scheduleLeaseRenewal, hlost', hunarmed]
  | ran _ monitor taken =>
      obtain ⟨hgood, ticket, op, resumed, made, hturn, -⟩ := taken.advanced h.unstarted h.good
      have hagenda := hturn.agenda
      refine ⟨h.unstarted, hgood, ?_, ?_, ?_, torn_turn h.timers h.good h.agenda h.torn hturn⟩
      · rw [hagenda]
        exact h.agenda
      · rw [hagenda, hturn.issued]
        exact h.tickets
      · exact Timers.turn h.timers h.agenda h.good hturn

end Change

end Connector
end VoiceAssistants
