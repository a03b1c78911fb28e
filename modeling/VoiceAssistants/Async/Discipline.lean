import VoiceAssistants.Async.Monitor

/-!
# Verifying a monitor one operation at a time

A `Discipline` gives every operation of a monitor a contract and a postcondition, both relative to the
history before the operation, and an invariant that holds between operations.  `Discipline.Sound` collects
the proof obligations: they are about one operation at a time and never mention the queue.

`Discipline.Good` is what then holds of the monitor at every moment:

* every settled episode kept its contract and reached its postcondition (`Completed`);
* the operation in progress kept its contract so far and is safe for whatever comes next (`Underway`);
* between operations the invariant holds.

`good_opened`, `Good.enqueue`, `Good.begin`, `Good.answer`, `Good.resume` and `Good.touch` say that a new
monitor is good and that every step keeps it so.
-/

namespace VoiceAssistants
namespace Async

open Program

/-- Contracts, postconditions and an invariant for the operations of a monitor.  `rely` is how the state may
change under a suspended operation, `drift` how it may change between operations; `later` says which
operations may be queued behind the one the monitor was opened with. -/
structure Discipline (I : Interface) (Op α : Type) where
  body : Op → Program I α
  rely : Op → I.State → I.State → Prop
  drift : I.State → I.State → Prop
  writes : Op → List (Op × Mark I) → List (Mark I) → I.State → I.State → Prop
  events : Op → List (Op × Mark I) → List (Mark I) → I.State → Event I → Prop
  suspends : Op → List (Op × Mark I) → List (Mark I) → I.State → Prop
  post : Op → List (Op × Mark I) → Post I α
  invariant : I.State → List (Op × Mark I) → Prop
  later : Op → Prop

namespace Discipline

variable {I : Interface} {Op α : Type}

/-- The contract of one operation after a given history. -/
def contract (D : Discipline I Op α) (op : Op) (before : List (Op × Mark I)) : Contract I where
  rely := D.rely op
  writes := D.writes op before
  events := D.events op before
  suspends := D.suspends op before

@[simp] theorem contract_events (D : Discipline I Op α) (op : Op) (before : List (Op × Mark I)) :
    (D.contract op before).events = D.events op before := rfl

@[simp] theorem contract_writes (D : Discipline I Op α) (op : Op) (before : List (Op × Mark I)) :
    (D.contract op before).writes = D.writes op before := rfl

@[simp] theorem contract_suspends (D : Discipline I Op α) (op : Op) (before : List (Op × Mark I)) :
    (D.contract op before).suspends = D.suspends op before := rfl

@[simp] theorem contract_rely (D : Discipline I Op α) (op : Op) (before : List (Op × Mark I)) :
    (D.contract op before).rely = D.rely op := rfl

/-- The proof obligations of a discipline for a monitor opened at `state` with the operation `first`. -/
structure Sound (D : Discipline I Op α) (state : I.State) (first : Op) : Prop where
  rely_refl : ∀ op a, D.rely op a a
  rely_trans : ∀ op a b c, D.rely op a b → D.rely op b c → D.rely op a c
  suspends_rely : ∀ op before own a b, D.rely op a b → D.suspends op before own a →
    D.suspends op before own b
  invariant_drift : ∀ a b history, D.drift a b → D.invariant a history → D.invariant b history
  opens : ∀ a, D.rely first state a → (D.body first).Safe (D.contract first []) (D.post first []) a []
  follows : ∀ op a before, D.later op → D.invariant a before →
    (D.body op).Safe (D.contract op before) (D.post op before) a []
  settles : ∀ op before result a own, D.post op before result a own →
    D.invariant a (before ++ own.map (Prod.mk op))

/-- A settled operation kept its contract and reached its postcondition. -/
def Completed (D : Discipline I Op α) (before : List (Op × Mark I)) (episode : Episode I Op α) : Prop :=
  Kept (D.contract episode.op before) [] episode.marks ∧
    ∃ state, D.post episode.op before episode.result state episode.marks

/-- An operation in progress kept its contract and is safe for every continuation. -/
structure Underway (D : Discipline I Op α) (before : List (Op × Mark I)) (turn : Turn I Op α)
    (state : I.State) : Prop where
  kept : Kept (D.contract turn.op before) [] turn.marks
  resting : turn.residual.Resting (D.contract turn.op before) (D.post turn.op before) state turn.marks
  suspended : ∀ result, turn.residual ≠ .done result
  called : turn.residual.Called turn.marks

/-- What holds of a monitor at every moment. -/
structure Good (D : Discipline I Op α) (state : I.State) (first : Op) (m : Monitor I Op α) : Prop where
  episodes : ∀ earlier episode after, m.settled = earlier ++ episode :: after →
    D.Completed (historyOf earlier) episode
  running : ∀ turn, m.running = some turn → D.Underway (historyOf m.settled) turn m.state
  rests : m.running = none → m.settled ≠ [] → D.invariant m.state (historyOf m.settled)
  unopened : m.running = none → m.settled = [] →
    D.rely first state m.state ∧ ∃ rest, m.waiting = (0, first) :: rest ∧ ∀ queued ∈ rest, D.later queued.2
  queued : m.running ≠ none ∨ m.settled ≠ [] → ∀ queued ∈ m.waiting, D.later queued.2

variable {D : Discipline I Op α} {state : I.State} {first : Op} {m m' : Monitor I Op α}

theorem good_opened (hD : D.Sound state first) :
    D.Good state first (Monitor.opened state first) where
  episodes := by
    intro earlier episode after h
    simp [Monitor.opened] at h
  running := by
    intro turn h
    simp [Monitor.opened] at h
  rests := by
    intro _ h
    exact absurd rfl h
  unopened := fun _ _ => ⟨hD.rely_refl first state, [], rfl, by simp⟩
  queued := by
    intro h
    simp [Monitor.opened] at h

/-- Appending a completed episode to completed episodes. -/
theorem episodes_append {settled : List (Episode I Op α)} {last : Episode I Op α}
    (h : ∀ earlier episode after, settled = earlier ++ episode :: after →
      D.Completed (historyOf earlier) episode)
    (hlast : D.Completed (historyOf settled) last) :
    ∀ earlier episode after, settled ++ [last] = earlier ++ episode :: after →
      D.Completed (historyOf earlier) episode := by
  intro earlier episode after heq
  rcases List.eq_nil_or_concat after with rfl | ⟨after', e, rfl⟩
  · obtain ⟨rfl, hsame⟩ := List.append_inj' heq rfl
    obtain rfl := List.singleton_injective hsame
    exact hlast
  · rw [List.concat_eq_append, ← List.cons_append, ← List.append_assoc] at heq
    obtain ⟨hsettled, -⟩ := List.append_inj' heq rfl
    exact h earlier episode after' hsettled

/-- **One synchronous run.**  If the operation kept its contract so far and its program is safe, the monitor
is good after running it up to its next suspension or its end. -/
theorem good_proceed (hD : D.Sound state first) {ticket : Nat} {op : Op} {own : List (Mark I)}
    {p : Program I α}
    (hepisodes : ∀ earlier episode after, m.settled = earlier ++ episode :: after →
      D.Completed (historyOf earlier) episode)
    (hqueued : ∀ queued ∈ m.waiting, D.later queued.2)
    (hkept : Kept (D.contract op (historyOf m.settled)) [] own)
    (hsafe : p.Safe (D.contract op (historyOf m.settled)) (D.post op (historyOf m.settled)) m.state own) :
    D.Good state first (m.proceed ticket op own p) := by
  obtain ⟨hmarks, -, hresting⟩ := hsafe.advance
  have hall : Kept (D.contract op (historyOf m.settled)) [] (own ++ (p.advance m.state).marks) :=
    kept_append hkept (by simpa using hmarks)
  obtain ⟨result, hdone, hm⟩ | ⟨hsusp, hm⟩ := Monitor.proceed_cases m ticket op own p
  · rw [hdone] at hresting
    have hpost : D.post op (historyOf m.settled) result (p.advance m.state).state
        (own ++ (p.advance m.state).marks) := hresting
    rw [hm]
    refine ⟨episodes_append hepisodes ⟨hall, _, hpost⟩, by simp, ?_, by simp, fun _ => hqueued⟩
    intro _ _
    have hinv := hD.settles _ _ _ _ _ hpost
    simpa [historyOf_append, historyOf_singleton] using hinv
  · rw [hm]
    refine ⟨hepisodes, ?_, by simp, by simp, fun _ => hqueued⟩
    intro turn hturn
    obtain rfl := Option.some.inj hturn
    exact ⟨hall, hresting, hsusp, advance_called p m.state own⟩

theorem Good.enqueue (h : D.Good state first m) {op : Op} (hop : D.later op) :
    D.Good state first (m.enqueue op) where
  episodes := h.episodes
  running := h.running
  rests := h.rests
  unopened := by
    intro hrun hsettled
    obtain ⟨hrely, rest, hwait, hrest⟩ := h.unopened hrun hsettled
    refine ⟨hrely, rest ++ [(m.issued, op)], by simp [Monitor.enqueue, hwait], ?_⟩
    intro queued hq
    rcases List.mem_append.mp hq with hq | hq
    · exact hrest queued hq
    · rw [List.mem_singleton.mp hq]
      exact hop
  queued := by
    intro hstarted queued hq
    rcases List.mem_append.mp hq with hq | hq
    · exact h.queued hstarted queued hq
    · rw [List.mem_singleton.mp hq]
      exact hop

theorem Good.begin (hD : D.Sound state first) (h : D.Good state first m)
    (hstep : m.begin D.body = some m') : D.Good state first m' := by
  obtain ⟨ticket, op, rest, hrun, hwait, rfl⟩ := Monitor.begin_eq_some hstep
  by_cases hsettled : m.settled = []
  · obtain ⟨hrely, rest', hwait', hlater⟩ := h.unopened hrun hsettled
    rw [hwait] at hwait'
    obtain ⟨hfirst, rfl⟩ := List.cons.inj hwait'
    obtain ⟨rfl, rfl⟩ := Prod.mk.inj hfirst
    refine good_proceed hD h.episodes hlater trivial ?_
    simpa [hsettled, historyOf] using hD.opens m.state hrely
  · have hlater := h.queued (.inr hsettled)
    rw [hwait] at hlater
    refine good_proceed hD h.episodes (fun queued hq => hlater queued (List.mem_cons_of_mem _ hq))
      trivial ?_
    exact hD.follows op m.state _ (hlater _ List.mem_cons_self) (h.rests hrun hsettled)

theorem Good.answer (hD : D.Sound state first) (h : D.Good state first m)
    {respond : (q : I.Request) → Except I.Error (I.Answer q)} (hstep : m.answer respond = some m') :
    D.Good state first m' := by
  obtain ⟨ticket, op, own, q, next, hrun, rfl⟩ := Monitor.answer_eq_some hstep
  obtain ⟨hkept, hresting, -⟩ := h.running _ hrun
  have hnext := hresting.2 m.state (hD.rely_refl _ _) (respond q)
  have hlater := h.queued (.inl (by simp [hrun]))
  exact good_proceed hD h.episodes hlater (kept_append hkept (kept_answered _ _ _ _)) hnext

theorem Good.resume (hD : D.Sound state first) (h : D.Good state first m) (hstep : m.resume = some m') :
    D.Good state first m' := by
  obtain ⟨ticket, op, own, next, hrun, rfl⟩ := Monitor.resume_eq_some hstep
  obtain ⟨hkept, hresting, -⟩ := h.running _ hrun
  have hnext := hresting.2 m.state (hD.rely_refl _ _)
  have hlater := h.queued (.inl (by simp [hrun]))
  exact good_proceed hD h.episodes hlater hkept hnext

theorem Good.touch (hD : D.Sound state first) (h : D.Good state first m) {f : I.State → I.State}
    (hrunning : ∀ turn, m.running = some turn → D.rely turn.op m.state (f m.state))
    (hunopened : m.running = none → m.settled = [] → D.rely first m.state (f m.state))
    (hrests : m.running = none → m.settled ≠ [] → D.drift m.state (f m.state)) :
    D.Good state first (m.touch f) where
  episodes := h.episodes
  running := by
    intro turn hturn
    obtain ⟨hkept, hresting, hsusp, hcalled⟩ := h.running turn hturn
    have hrely := hrunning turn hturn
    exact ⟨hkept, hresting.rely (hD.rely_trans _) (hD.suspends_rely _ _) hrely hsusp, hsusp, hcalled⟩
  rests := fun hrun hsettled => hD.invariant_drift _ _ _ (hrests hrun hsettled) (h.rests hrun hsettled)
  unopened := by
    intro hrun hsettled
    obtain ⟨hrely, hrest⟩ := h.unopened hrun hsettled
    exact ⟨hD.rely_trans _ _ _ _ hrely (hunopened hrun hsettled), hrest⟩
  queued := h.queued

end Discipline

end Async
end VoiceAssistants
