import VoiceAssistants.Async.Safety
import Mathlib.Data.List.Basic
import Mathlib.Data.List.Nodup

/-!
# Monitors: objects whose operations are serialised by a promise chain

An object that chains every operation on a promise (`lock = lock.then(op, op)`) runs its operations one at a
time, in the order they were queued, whatever the outcome of each.  `Monitor` is such an object at rest or in
the middle of an operation:

* `settled` — the finished operations, oldest first, each an `Episode` with the marks it made;
* `running` — the operation in progress, a `Turn` with a suspended residual program;
* `waiting` — the queue.

The steps of a monitor are `enqueue`, `begin`, `answer`, `resume` and `touch`.  Its `agenda` lists every
operation ever queued, in order; no step but `enqueue` changes it, so operations are never lost, repeated or
reordered.
-/

namespace VoiceAssistants
namespace Async

/-- A finished operation. -/
structure Episode (I : Interface) (Op α : Type) where
  ticket : Nat
  op : Op
  marks : List (Mark I)
  result : Except I.Error α

/-- An operation in progress: the marks it has made and the program that is suspended. -/
structure Turn (I : Interface) (Op α : Type) where
  ticket : Nat
  op : Op
  marks : List (Mark I)
  residual : Program I α

/-- An object with serialised operations.  `issued` counts the operations queued so far. -/
structure Monitor (I : Interface) (Op α : Type) where
  state : I.State
  settled : List (Episode I Op α)
  running : Option (Turn I Op α)
  waiting : List (Nat × Op)
  issued : Nat

/-- The marks of a list of episodes, in order, tagged with the operation that made them. -/
def historyOf {I : Interface} {Op α : Type} (episodes : List (Episode I Op α)) : List (Op × Mark I) :=
  episodes.flatMap fun episode => episode.marks.map (Prod.mk episode.op)

section

variable {I : Interface} {Op α : Type}

theorem historyOf_append (first second : List (Episode I Op α)) :
    historyOf (first ++ second) = historyOf first ++ historyOf second := by
  simp [historyOf]

theorem historyOf_singleton (episode : Episode I Op α) :
    historyOf [episode] = episode.marks.map (Prod.mk episode.op) := by
  simp [historyOf]

end

namespace Monitor

variable {I : Interface} {Op α : Type}

/-- A new object whose first operation is queued at once. -/
def opened (state : I.State) (first : Op) : Monitor I Op α :=
  ⟨state, [], none, [(0, first)], 1⟩

/-- Queue an operation behind the ones already there. -/
def enqueue (m : Monitor I Op α) (op : Op) : Monitor I Op α :=
  { m with waiting := m.waiting ++ [(m.issued, op)], issued := m.issued + 1 }

/-- Run an operation from `p` up to its next suspension, or to its end. -/
def proceed (m : Monitor I Op α) (ticket : Nat) (op : Op) (own : List (Mark I)) (p : Program I α) :
    Monitor I Op α :=
  let segment := p.advance m.state
  match segment.residual with
  | .done result =>
      { m with
        state := segment.state
        running := none
        settled := m.settled ++ [⟨ticket, op, own ++ segment.marks, result⟩] }
  | residual =>
      { m with
        state := segment.state
        running := some ⟨ticket, op, own ++ segment.marks, residual⟩ }

/-- The operation at the head of the queue starts once no other is in progress. -/
def begin (body : Op → Program I α) (m : Monitor I Op α) : Option (Monitor I Op α) :=
  match m.running, m.waiting with
  | none, (ticket, op) :: rest => some ({ m with waiting := rest }.proceed ticket op [] (body op))
  | _, _ => none

/-- The answer to the call in flight arrives. -/
def answer (respond : (q : I.Request) → Except I.Error (I.Answer q)) (m : Monitor I Op α) :
    Option (Monitor I Op α) :=
  match m.running with
  | some ⟨ticket, op, own, .call q next⟩ =>
      some (m.proceed ticket op (own ++ [⟨m.state, .answered q (respond q)⟩]) (next (respond q)))
  | _ => none

/-- The operation in progress gets its next turn of the event loop. -/
def resume (m : Monitor I Op α) : Option (Monitor I Op α) :=
  match m.running with
  | some ⟨ticket, op, own, .pause next⟩ => some (m.proceed ticket op own next)
  | _ => none

/-- The state changes outside the queue. -/
def touch (f : I.State → I.State) (m : Monitor I Op α) : Monitor I Op α :=
  { m with state := f m.state }

/-- Every mark made so far, oldest first. -/
def history (m : Monitor I Op α) : List (Op × Mark I) :=
  historyOf m.settled ++
    match m.running with
    | some turn => turn.marks.map (Prod.mk turn.op)
    | none => []

/-- All operations ever queued, in order: the settled ones, the one in progress, the waiting ones. -/
def agenda (m : Monitor I Op α) : List (Nat × Op) :=
  m.settled.map (fun episode => (episode.ticket, episode.op)) ++
    (m.running.map fun turn => (turn.ticket, turn.op)).toList ++ m.waiting

/-- Nothing is queued or in progress. -/
def Idle (m : Monitor I Op α) : Prop :=
  m.running = none ∧ m.waiting = []

/-- The outcome of the operation with a given ticket, once it has settled. -/
def outcome (m : Monitor I Op α) (ticket : Nat) : Option (Except I.Error α) :=
  (m.settled.find? fun episode => episode.ticket == ticket).map (·.result)

/-! ## What a step leaves unchanged -/

/-- What an operation in progress becomes after a synchronous run: settled, or suspended again. -/
theorem proceed_cases (m : Monitor I Op α) (ticket : Nat) (op : Op) (own : List (Mark I))
    (p : Program I α) :
    (∃ result, (p.advance m.state).residual = .done result ∧
      m.proceed ticket op own p =
        { m with
          state := (p.advance m.state).state
          running := none
          settled := m.settled ++ [⟨ticket, op, own ++ (p.advance m.state).marks, result⟩] }) ∨
    ((∀ result, (p.advance m.state).residual ≠ .done result) ∧
      m.proceed ticket op own p =
        { m with
          state := (p.advance m.state).state
          running := some ⟨ticket, op, own ++ (p.advance m.state).marks, (p.advance m.state).residual⟩ }) := by
  unfold proceed
  cases hres : (p.advance m.state).residual with
  | done result => exact .inl ⟨result, rfl, by simp [hres]⟩
  | read next => exact .inr ⟨by simp, by simp [hres]⟩
  | write state next => exact .inr ⟨by simp, by simp [hres]⟩
  | emit output next => exact .inr ⟨by simp, by simp [hres]⟩
  | call request next => exact .inr ⟨by simp, by simp [hres]⟩
  | pause next => exact .inr ⟨by simp, by simp [hres]⟩

@[simp] theorem proceed_state (m : Monitor I Op α) (ticket : Nat) (op : Op) (own : List (Mark I))
    (p : Program I α) : (m.proceed ticket op own p).state = (p.advance m.state).state := by
  obtain ⟨result, -, h⟩ | ⟨-, h⟩ := proceed_cases m ticket op own p <;> rw [h]

@[simp] theorem proceed_waiting (m : Monitor I Op α) (ticket : Nat) (op : Op) (own : List (Mark I))
    (p : Program I α) : (m.proceed ticket op own p).waiting = m.waiting := by
  obtain ⟨result, -, h⟩ | ⟨-, h⟩ := proceed_cases m ticket op own p <;> rw [h]

@[simp] theorem proceed_issued (m : Monitor I Op α) (ticket : Nat) (op : Op) (own : List (Mark I))
    (p : Program I α) : (m.proceed ticket op own p).issued = m.issued := by
  obtain ⟨result, -, h⟩ | ⟨-, h⟩ := proceed_cases m ticket op own p <;> rw [h]

/-- Inversion of `begin`. -/
theorem begin_eq_some {body : Op → Program I α} {m m' : Monitor I Op α} (h : m.begin body = some m') :
    ∃ ticket op rest, m.running = none ∧ m.waiting = (ticket, op) :: rest ∧
      m' = { m with waiting := rest }.proceed ticket op [] (body op) := by
  unfold begin at h
  split at h
  · rename_i ticket op rest hrun hwait
    exact ⟨ticket, op, rest, hrun, hwait, (Option.some.inj h).symm⟩
  · cases h

/-- Inversion of `answer`. -/
theorem answer_eq_some {respond : (q : I.Request) → Except I.Error (I.Answer q)} {m m' : Monitor I Op α}
    (h : m.answer respond = some m') :
    ∃ ticket op own q next, m.running = some ⟨ticket, op, own, .call q next⟩ ∧
      m' = m.proceed ticket op (own ++ [⟨m.state, .answered q (respond q)⟩]) (next (respond q)) := by
  unfold answer at h
  split at h
  · rename_i ticket op own q next hrun
    exact ⟨ticket, op, own, q, next, hrun, (Option.some.inj h).symm⟩
  · cases h

/-- Inversion of `resume`. -/
theorem resume_eq_some {m m' : Monitor I Op α} (h : m.resume = some m') :
    ∃ ticket op own next, m.running = some ⟨ticket, op, own, .pause next⟩ ∧
      m' = m.proceed ticket op own next := by
  unfold resume at h
  split at h
  · rename_i ticket op own next hrun
    exact ⟨ticket, op, own, next, hrun, (Option.some.inj h).symm⟩
  · cases h

@[simp] theorem enqueue_agenda (m : Monitor I Op α) (op : Op) :
    (m.enqueue op).agenda = m.agenda ++ [(m.issued, op)] := by
  simp [agenda, enqueue]

@[simp] theorem touch_agenda (f : I.State → I.State) (m : Monitor I Op α) :
    (m.touch f).agenda = m.agenda := rfl

end Monitor

end Async
end VoiceAssistants
