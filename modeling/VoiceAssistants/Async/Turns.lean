import VoiceAssistants.Async.Discipline

/-!
# One turn of a monitor

`Discipline.Good` says what holds of a monitor between its turns.  The facts here say what one turn of a good
monitor does, for invariants that connect the monitor with what surrounds it:

* `Cause` is why an operation runs: it begins, it got an answer, or it got its next turn of the event loop.
* `Advanced` is the effect of the turn: the writes and the new marks kept the contract, and the operation is
  suspended again or has settled with its postcondition at the state the turn left.
* `Good.event` recovers the contract of any call or output in the history.
-/

namespace VoiceAssistants
namespace Async

open Program

section

variable {I : Interface} {Op α : Type}

/-- Why the operation with a ticket runs, with the marks it has then; `waiting` is the queue it leaves. -/
inductive Cause (m : Monitor I Op α) (waiting : List (Nat × Op)) (ticket : Nat) (op : Op) :
    List (Mark I) → Prop
  | begun (idle : m.running = none) (head : m.waiting = (ticket, op) :: waiting) :
      Cause m waiting ticket op []
  | answered (own : List (Mark I)) (q : I.Request) (next : Except I.Error (I.Answer q) → Program I α)
      (answer : Except I.Error (I.Answer q)) (inFlight : m.running = some ⟨ticket, op, own, .call q next⟩)
      (queue : waiting = m.waiting) : Cause m waiting ticket op (own ++ [⟨m.state, .answered q answer⟩])
  | resumed (own : List (Mark I)) (next : Program I α)
      (paused : m.running = some ⟨ticket, op, own, .pause next⟩) (queue : waiting = m.waiting) :
      Cause m waiting ticket op own

/-- The agenda of a monitor one of whose operations runs. -/
theorem Cause.agenda {m : Monitor I Op α} {waiting : List (Nat × Op)} {ticket : Nat} {op : Op}
    {resumed : List (Mark I)} (h : Cause m waiting ticket op resumed) :
    m.agenda = m.settled.map (fun episode => (episode.ticket, episode.op)) ++ (ticket, op) :: waiting := by
  cases h with
  | begun idle head => simp [Monitor.agenda, idle, head]
  | answered own q next answer inFlight queue => simp [Monitor.agenda, inFlight, queue]
  | resumed own next paused queue => simp [Monitor.agenda, paused, queue]

/-- No synchronous run makes an answer mark. -/
theorem advance_marks_not_answered (p : Program I α) (state : I.State) :
    ∀ mark ∈ (p.advance state).marks, ∀ q answer, mark.event ≠ .answered q answer := by
  induction p generalizing state with
  | done result => simp [advance]
  | read next ih => exact ih state state
  | write state' next ih => exact ih state'
  | emit output next ih =>
      intro mark hmark q answer
      rcases List.mem_cons.mp hmark with rfl | hmark
      · simp
      · exact ih state mark hmark q answer
  | call request next ih => simp [advance]
  | pause next ih => simp [advance]

/-- Where a mark of a finished operation comes from. -/
theorem historyOf_split {episodes : List (Episode I Op α)} {earlier later : List (Op × Mark I)}
    {op : Op} {mark : Mark I} (h : historyOf episodes = earlier ++ (op, mark) :: later) :
    ∃ done episode after own rest, episodes = done ++ episode :: after ∧ episode.op = op ∧
      episode.marks = own ++ mark :: rest ∧ earlier = historyOf done ++ own.map (Prod.mk op) ∧
      later = rest.map (Prod.mk op) ++ historyOf after := by
  induction episodes generalizing earlier with
  | nil => simp [historyOf] at h
  | cons episode episodes ih =>
      have hcons : historyOf (episode :: episodes) =
          episode.marks.map (Prod.mk episode.op) ++ historyOf episodes := rfl
      rw [hcons] at h
      have hlater : ∀ middle, historyOf episodes = middle ++ (op, mark) :: later →
          earlier = episode.marks.map (Prod.mk episode.op) ++ middle →
          ∃ done e after own rest, episode :: episodes = done ++ e :: after ∧ e.op = op ∧
            e.marks = own ++ mark :: rest ∧ earlier = historyOf done ++ own.map (Prod.mk op) ∧
            later = rest.map (Prod.mk op) ++ historyOf after := by
        intro middle hrest hearlier
        obtain ⟨done, e, after, own, rest, rfl, hop, hmarks, hmiddle, hafter⟩ := ih hrest
        refine ⟨episode :: done, e, after, own, rest, rfl, hop, hmarks, ?_, hafter⟩
        rw [hearlier, hmiddle, ← List.append_assoc]
        rfl
      rcases List.append_eq_append_iff.mp h with ⟨middle, hearlier, hrest⟩ | ⟨middle, hmarks, hrest⟩
      · exact hlater middle hrest hearlier
      · cases middle with
        | nil => exact hlater [] (by simpa using hrest.symm) (by simpa using hmarks.symm)
        | cons head middle =>
            obtain ⟨rfl, htail⟩ := List.cons.inj hrest
            obtain ⟨own, tail, hsplit, rfl, hown⟩ := List.map_eq_append_iff.mp hmarks
            obtain ⟨mark', rest, rfl, hmark, hmiddle⟩ := List.map_eq_cons_iff.mp hown
            obtain ⟨rfl, rfl⟩ := Prod.mk.inj hmark
            exact ⟨[], episode, episodes, own, rest, rfl, rfl, hsplit, rfl, by rw [htail, hmiddle]; rfl⟩

/-- The marks of one operation, finished or in progress, and the history before it. -/
inductive Monitor.Made (m : Monitor I Op α) : List (Op × Mark I) → Op → List (Mark I) → Prop
  | finished (done : List (Episode I Op α)) (episode : Episode I Op α) (after : List (Episode I Op α))
      (settled : m.settled = done ++ episode :: after) : Made m (historyOf done) episode.op episode.marks
  | inProgress (turn : Turn I Op α) (running : m.running = some turn) :
      Made m (historyOf m.settled) turn.op turn.marks

/-- The marks of the operations depend on the finished operations and the one in progress only. -/
theorem Monitor.Made.of_same {m m' : Monitor I Op α} {before : List (Op × Mark I)} {op : Op}
    {marks : List (Mark I)} (h : m'.Made before op marks) (hsettled : m'.settled = m.settled)
    (hrunning : m'.running = m.running) : m.Made before op marks := by
  cases h with
  | finished done episode after settled => exact .finished done episode after (hsettled ▸ settled)
  | inProgress turn running =>
      rw [hsettled]
      exact .inProgress turn (hrunning ▸ running)

/-- The marks of an operation are in the history, right after the history before it. -/
theorem Monitor.Made.history {m : Monitor I Op α} {before : List (Op × Mark I)} {op : Op}
    {marks : List (Mark I)} (h : m.Made before op marks) :
    ∃ more, m.history = before ++ marks.map (Prod.mk op) ++ more := by
  cases h with
  | finished done episode after settled =>
      refine ⟨historyOf after ++ (m.running.elim [] fun turn => turn.marks.map (Prod.mk turn.op)), ?_⟩
      cases hrun : m.running <;> simp [Monitor.history, settled, historyOf, hrun]
  | inProgress turn running => exact ⟨[], by simp [Monitor.history, running]⟩

/-- A place in the history of a monitor is a place in the marks of one operation. -/
theorem Monitor.history_split (m : Monitor I Op α) {earlier later : List (Op × Mark I)} {op : Op}
    {mark : Mark I} (hsplit : m.history = earlier ++ (op, mark) :: later) :
    ∃ before own rest more, earlier = before ++ own.map (Prod.mk op) ∧
      later = rest.map (Prod.mk op) ++ more ∧ m.Made before op (own ++ mark :: rest) := by
  have hrunning : ∀ turn middle, m.running = some turn →
      turn.marks.map (Prod.mk turn.op) = middle ++ (op, mark) :: later →
      earlier = historyOf m.settled ++ middle →
      ∃ before own rest more, earlier = before ++ own.map (Prod.mk op) ∧
        later = rest.map (Prod.mk op) ++ more ∧ m.Made before op (own ++ mark :: rest) := by
    intro turn middle hrun hmarks hearlier
    obtain ⟨own, tail, hsplit', rfl, hown⟩ := List.map_eq_append_iff.mp hmarks
    obtain ⟨mark', rest, rfl, hmark, hlater⟩ := List.map_eq_cons_iff.mp hown
    obtain ⟨rfl, rfl⟩ := Prod.mk.inj hmark
    exact ⟨historyOf m.settled, own, rest, [], hearlier, by simp [hlater], hsplit' ▸ .inProgress turn hrun⟩
  unfold Monitor.history at hsplit
  rcases List.append_eq_append_iff.mp hsplit with ⟨middle, hearlier, hrest⟩ | ⟨middle, hsettled, hrest⟩
  · cases hrun : m.running with
    | none => simp [hrun] at hrest
    | some turn =>
        rw [hrun] at hrest
        exact hrunning turn middle hrun hrest hearlier
  · cases middle with
    | nil =>
        cases hrun : m.running with
        | none => simp [hrun] at hrest
        | some turn =>
            rw [hrun] at hrest
            exact hrunning turn [] hrun (by simpa using hrest.symm) (by simpa using hsettled.symm)
    | cons head middle =>
        obtain ⟨rfl, hlater⟩ := List.cons.inj hrest
        obtain ⟨done, episode, after, own, rest, hepisodes, rfl, hmarks, hearlier, hmiddle⟩ :=
          historyOf_split hsettled
        have hmade := Monitor.Made.finished done episode after hepisodes
        rw [hmarks] at hmade
        rw [hmiddle] at hlater
        exact ⟨historyOf done, own, rest, _, hearlier, hlater.trans (List.append_assoc _ _ _), hmade⟩

end

namespace Discipline

variable {I : Interface} {Op α : Type}

/-- The effect of one turn of the operation `op` that had made the marks `resumed`. -/
structure Advanced (D : Discipline I Op α) (m m' : Monitor I Op α) (ticket : Nat) (op : Op)
    (resumed made : List (Mark I)) : Prop where
  cause : Cause m m'.waiting ticket op resumed
  issued : m'.issued = m.issued
  fresh : ∀ mark ∈ made, ∀ q answer, mark.event ≠ .answered q answer
  kept : Kept (D.contract op (historyOf m.settled)) [] (resumed ++ made)
  writes : Writes (D.contract op (historyOf m.settled)) resumed m.state m'.state (resumed ++ made)
  ends :
    (∃ result, m'.running = none ∧ m'.settled = m.settled ++ [⟨ticket, op, resumed ++ made, result⟩] ∧
      D.post op (historyOf m.settled) result m'.state (resumed ++ made)) ∨
    (∃ residual, m'.running = some ⟨ticket, op, resumed ++ made, residual⟩ ∧ m'.settled = m.settled ∧
      D.suspends op (historyOf m.settled) (resumed ++ made) m'.state)

variable {D : Discipline I Op α} {state : I.State} {first : Op} {m m' : Monitor I Op α}

/-- The effect of a synchronous run of a safe program. -/
theorem advanced_proceed {base : Monitor I Op α} {ticket : Nat} {op : Op} {resumed : List (Mark I)}
    {p : Program I α} (hcause : Cause m base.waiting ticket op resumed)
    (hbase : base = { m with waiting := base.waiting })
    (hkept : Kept (D.contract op (historyOf m.settled)) [] resumed)
    (hsafe : p.Safe (D.contract op (historyOf m.settled)) (D.post op (historyOf m.settled)) m.state
      resumed) :
    D.Advanced m (base.proceed ticket op resumed p) ticket op resumed (p.advance m.state).marks := by
  obtain ⟨hmarks, hwrites, hresting⟩ := hsafe.advance
  have hstate : base.state = m.state := by rw [hbase]
  have hsettled : base.settled = m.settled := by rw [hbase]
  have hissued : base.issued = m.issued := by rw [hbase]
  refine ⟨by simpa using hcause, by simpa using hissued, advance_marks_not_answered p m.state,
    kept_append hkept (by simpa using hmarks), by simpa [hstate] using hwrites, ?_⟩
  obtain ⟨result, hdone, hm⟩ | ⟨hsusp, hm⟩ := Monitor.proceed_cases base ticket op resumed p
  · left
    rw [hstate] at hdone
    rw [hdone] at hresting
    exact ⟨result, by rw [hm], by rw [hm, hstate, hsettled], by simpa [hstate] using hresting⟩
  · right
    rw [hstate] at hsusp
    refine ⟨(p.advance m.state).residual, by rw [hm, hstate], by rw [hm, hsettled], ?_⟩
    simpa [hstate] using hresting.suspends hsusp

theorem Good.begin_advanced (hD : D.Sound state first) (h : D.Good state first m)
    (hstep : m.begin D.body = some m') :
    ∃ ticket op made, D.Advanced m m' ticket op [] made := by
  obtain ⟨ticket, op, rest, hrun, hwait, rfl⟩ := Monitor.begin_eq_some hstep
  refine ⟨ticket, op, _, advanced_proceed (.begun hrun hwait) rfl trivial ?_⟩
  by_cases hsettled : m.settled = []
  · obtain ⟨hrely, rest', hwait', -⟩ := h.unopened hrun hsettled
    rw [hwait] at hwait'
    obtain ⟨hfirst, -⟩ := List.cons.inj hwait'
    obtain ⟨-, rfl⟩ := Prod.mk.inj hfirst
    simpa [hsettled, historyOf] using hD.opens m.state hrely
  · have hlater := h.queued (.inr hsettled) (ticket, op) (by simp [hwait])
    exact hD.follows op m.state _ hlater (h.rests hrun hsettled)

theorem Good.answer_advanced (hD : D.Sound state first) (h : D.Good state first m)
    {respond : (q : I.Request) → Except I.Error (I.Answer q)} (hstep : m.answer respond = some m') :
    ∃ ticket op own q next made, m.running = some ⟨ticket, op, own, .call q next⟩ ∧
      D.Advanced m m' ticket op (own ++ [⟨m.state, .answered q (respond q)⟩]) made := by
  obtain ⟨ticket, op, own, q, next, hrun, rfl⟩ := Monitor.answer_eq_some hstep
  obtain ⟨hkept, hresting, -⟩ := h.running _ hrun
  have hnext := hresting.2 m.state (hD.rely_refl _ _) (respond q)
  exact ⟨ticket, op, own, q, next, _, hrun,
    advanced_proceed (.answered own q next (respond q) hrun rfl) rfl
      (kept_append hkept (kept_answered _ _ _ _)) hnext⟩

theorem Good.resume_advanced (hD : D.Sound state first) (h : D.Good state first m)
    (hstep : m.resume = some m') :
    ∃ ticket op own made, D.Advanced m m' ticket op own made := by
  obtain ⟨ticket, op, own, next, hrun, rfl⟩ := Monitor.resume_eq_some hstep
  obtain ⟨hkept, hresting, -⟩ := h.running _ hrun
  have hnext := hresting.2 m.state (hD.rely_refl _ _)
  exact ⟨ticket, op, own, _, advanced_proceed (.resumed own next hrun rfl) rfl hkept hnext⟩

/-- The history after a turn: that of the finished operations, then the marks of the operation. -/
theorem Advanced.history {ticket : Nat} {op : Op} {resumed made : List (Mark I)}
    (h : D.Advanced m m' ticket op resumed made) :
    m'.history = historyOf m.settled ++ (resumed ++ made).map (Prod.mk op) := by
  rcases h.ends with ⟨result, hrun, hsettled, -⟩ | ⟨residual, hrun, hsettled, -⟩
  · simp [Monitor.history, hrun, hsettled, historyOf_append, historyOf_singleton]
  · simp [Monitor.history, hrun, hsettled]

/-- A turn adds to the history: the answer it got, if it got one, and the marks it made. -/
theorem Advanced.history_append {ticket : Nat} {op : Op} {resumed made : List (Mark I)}
    (h : D.Advanced m m' ticket op resumed made) :
    (m'.history = m.history ++ made.map (Prod.mk op) ∧
      ∀ own q next, m.running ≠ some ⟨ticket, op, own, .call q next⟩) ∨
    ∃ own q next answer, m.running = some ⟨ticket, op, own, .call q next⟩ ∧
      resumed = own ++ [⟨m.state, .answered q answer⟩] ∧
      m'.history = m.history ++ (op, ⟨m.state, .answered q answer⟩) :: made.map (Prod.mk op) := by
  rw [h.history]
  cases h.cause with
  | begun idle head => exact .inl ⟨by simp [Monitor.history, idle], by simp [idle]⟩
  | answered own q next answer inFlight queue =>
      exact .inr ⟨own, q, next, answer, inFlight, rfl, by simp [Monitor.history, inFlight]⟩
  | resumed own next paused queue => exact .inl ⟨by simp [Monitor.history, paused], by simp [paused]⟩

/-- The agenda after a turn is the agenda before it. -/
theorem Advanced.agenda {ticket : Nat} {op : Op} {resumed made : List (Mark I)}
    (h : D.Advanced m m' ticket op resumed made) : m'.agenda = m.agenda := by
  rw [h.cause.agenda]
  rcases h.ends with ⟨result, hrun, hsettled, -⟩ | ⟨residual, hrun, hsettled, -⟩
  · simp [Monitor.agenda, hrun, hsettled]
  · simp [Monitor.agenda, hrun, hsettled]

/-- The operations after a turn are those before it, and the one that begins with the turn, if any. -/
theorem Advanced.made_before {ticket : Nat} {op op' : Op} {resumed made marks : List (Mark I)}
    {before : List (Op × Mark I)} (h : D.Advanced m m' ticket op resumed made)
    (hmade : m'.Made before op' marks) :
    (∃ marks', m.Made before op' marks') ∨
      m.running = none ∧ m.waiting = (ticket, op) :: m'.waiting ∧ before = historyOf m.settled ∧ op' = op := by
  have hold : ∀ done episode after, m.settled = done ++ episode :: after →
      ∃ marks', m.Made (historyOf done) episode.op marks' :=
    fun done episode after hsettled => ⟨_, .finished done episode after hsettled⟩
  have hturn : (∃ marks', m.Made (historyOf m.settled) op marks') ∨
      m.running = none ∧ m.waiting = (ticket, op) :: m'.waiting ∧
        historyOf m.settled = historyOf m.settled ∧ op = op := by
    cases h.cause with
    | begun idle head => exact .inr ⟨idle, head, rfl, rfl⟩
    | answered own q next answer inFlight queue => exact .inl ⟨_, .inProgress _ inFlight⟩
    | resumed own next paused queue => exact .inl ⟨_, .inProgress _ paused⟩
  rcases h.ends with ⟨result, hrun, hsettled, -⟩ | ⟨residual, hrun, hsettled, -⟩
  · cases hmade with
    | finished done episode after heq =>
        rw [hsettled] at heq
        rcases List.eq_nil_or_concat after with rfl | ⟨after', last, rfl⟩
        · obtain ⟨rfl, hlast⟩ := List.append_inj' heq rfl
          obtain rfl := List.singleton_injective hlast
          exact hturn
        · rw [List.concat_eq_append, ← List.cons_append, ← List.append_assoc] at heq
          obtain ⟨heq, -⟩ := List.append_inj' heq rfl
          exact .inl (hold _ _ _ heq)
    | inProgress turn hrun' =>
        rw [hrun] at hrun'
        cases hrun'
  · cases hmade with
    | finished done episode after heq => exact .inl (hold _ _ _ (hsettled ▸ heq))
    | inProgress turn hrun' =>
        rw [hrun] at hrun'
        obtain rfl := Option.some.inj hrun'
        rw [hsettled]
        exact hturn

/-- Every operation of a good monitor kept its contract. -/
theorem Good.made (h : D.Good state first m) {before : List (Op × Mark I)} {op : Op} {marks : List (Mark I)}
    (hmade : m.Made before op marks) : Kept (D.contract op before) [] marks := by
  cases hmade with
  | finished done episode after hsettled => exact (h.episodes done episode after hsettled).1
  | inProgress turn hrun => exact (h.running turn hrun).kept

/-- A call or an output of an operation kept the contract. -/
theorem Good.made_event (h : D.Good state first m) {before : List (Op × Mark I)} {op : Op}
    {own rest : List (Mark I)} {mark : Mark I} (hmade : m.Made before op (own ++ mark :: rest))
    (hmark : ∀ q answer, mark.event ≠ .answered q answer) :
    D.events op before own mark.state mark.event := by
  simpa using (h.made hmade).split hmark

/-- **Every call and output of a good monitor kept its contract**, after the operations before it and the
marks of its own operation. -/
theorem Good.event (h : D.Good state first m) {earlier later : List (Op × Mark I)} {op : Op}
    {mark : Mark I} (hsplit : m.history = earlier ++ (op, mark) :: later)
    (hmark : ∀ q answer, mark.event ≠ .answered q answer) :
    ∃ before own, earlier = before ++ own.map (Prod.mk op) ∧
      D.events op before own mark.state mark.event := by
  obtain ⟨before, own, rest, more, rfl, -, hmade⟩ := m.history_split hsplit
  exact ⟨before, own, rfl, h.made_event hmade hmark⟩

end Discipline

end Async
end VoiceAssistants
