import VoiceAssistants.Async.Program

/-!
# Contracts of asynchronous operations

While an operation is suspended, other tasks run.  A `Contract` says what the operation may rely on about
the state changing under it, and what every write, every event and every suspension of the operation has to
satisfy, given the marks the operation has made so far.

`Program.Safe C post p state own` is the weakest precondition of that contract: it is computed by recursion
on the program, asks every obligation at the point where it arises, and lets a call be answered by any value
or exception.  The rules below are its equations for sequencing (`safe_settleThen`, `safe_bind`,
`safe_attempt`, `safe_awaited`), its consequence rule (`Safe.imp`), and the soundness of the synchronous run
`Program.advance` (`Safe.advance`).
-/

namespace VoiceAssistants
namespace Async

/-- The obligations of one operation. -/
structure Contract (I : Interface) where
  /-- How others may change the state while the operation is suspended. -/
  rely : I.State → I.State → Prop
  /-- What a write of the operation has to satisfy, given the marks made so far. -/
  writes : List (Mark I) → I.State → I.State → Prop
  /-- What a call or an output has to satisfy. -/
  events : List (Mark I) → I.State → Event I → Prop
  /-- What holds whenever the operation is suspended. -/
  suspends : List (Mark I) → I.State → Prop

/-- The postcondition of an operation: its outcome, the state, and the marks it made. -/
abbrev Post (I : Interface) (α : Type) := Except I.Error α → I.State → List (Mark I) → Prop

namespace Program

variable {I : Interface} {α β : Type}

/-- The weakest precondition of `p` for a contract and a postcondition. -/
def Safe (C : Contract I) (post : Post I α) : Program I α → I.State → List (Mark I) → Prop
  | done result, state, own => post result state own
  | read next, state, own => (next state).Safe C post state own
  | write state' next, state, own => C.writes own state state' ∧ next.Safe C post state' own
  | emit output next, state, own =>
      C.events own state (.emitted output) ∧ next.Safe C post state (own ++ [⟨state, .emitted output⟩])
  | call request next, state, own =>
      C.events own state (.called request) ∧
      C.suspends (own ++ [⟨state, .called request⟩]) state ∧
      ∀ state', C.rely state state' → ∀ answer,
        (next answer).Safe C post state'
          (own ++ [⟨state, .called request⟩] ++ [⟨state', .answered request answer⟩])
  | pause next, state, own =>
      C.suspends own state ∧ ∀ state', C.rely state state' → next.Safe C post state' own

variable {C : Contract I}

theorem safe_settleThen {post : Post I β} (p : Program I α) (f : Except I.Error α → Program I β)
    (state : I.State) (own : List (Mark I)) :
    (p.settleThen f).Safe C post state own ↔
      p.Safe C (fun result state own => (f result).Safe C post state own) state own := by
  induction p generalizing state own with
  | done result => exact Iff.rfl
  | read next ih => exact ih state state own
  | write state' next ih => exact and_congr_right fun _ => ih state' own
  | emit output next ih => exact and_congr_right fun _ => ih state _
  | call request next ih =>
      refine and_congr_right fun _ => and_congr_right fun _ => ?_
      exact forall_congr' fun state' => forall_congr' fun _ => forall_congr' fun answer =>
        ih answer state' _
  | pause next ih =>
      refine and_congr_right fun _ => ?_
      exact forall_congr' fun state' => forall_congr' fun _ => ih state' own

/-- The consequence rule: a weaker postcondition. -/
theorem Safe.imp {post post' : Post I α} {p : Program I α} {state : I.State} {own : List (Mark I)}
    (h : p.Safe C post state own)
    (himp : ∀ result state own, post result state own → post' result state own) :
    p.Safe C post' state own := by
  induction p generalizing state own with
  | done result => exact himp _ _ _ h
  | read next ih => exact ih state h
  | write state' next ih => exact ⟨h.1, ih h.2⟩
  | emit output next ih => exact ⟨h.1, ih h.2⟩
  | call request next ih =>
      exact ⟨h.1, h.2.1, fun state' hrely answer => ih answer (h.2.2 state' hrely answer)⟩
  | pause next ih => exact ⟨h.1, fun state' hrely => ih (h.2 state' hrely)⟩

@[simp] theorem safe_pure {post : Post I α} (value : α) (state : I.State) (own : List (Mark I)) :
    (pure value : Program I α).Safe C post state own ↔ post (.ok value) state own := Iff.rfl

@[simp] theorem safe_bind {post : Post I β} (p : Program I α) (f : α → Program I β) (state : I.State)
    (own : List (Mark I)) :
    (p >>= f).Safe C post state own ↔
      p.Safe C (fun result state own =>
        match result with
        | .ok value => (f value).Safe C post state own
        | .error error => post (.error error) state own) state own := by
  refine (safe_settleThen p _ state own).trans ?_
  constructor <;> intro h <;> refine h.imp fun result state own hpost => ?_
  · cases result <;> exact hpost
  · cases result <;> exact hpost

@[simp] theorem safe_attempt {post : Post I (Except I.Error α)} (p : Program I α) (state : I.State)
    (own : List (Mark I)) :
    p.attempt.Safe C post state own ↔
      p.Safe C (fun result state own => post (.ok result) state own) state own :=
  safe_settleThen p _ state own

/-- Awaiting an inner operation adds one suspension after it. -/
theorem safe_awaited {post : Post I α} (p : Program I α) (state : I.State) (own : List (Mark I)) :
    p.awaited.Safe C post state own ↔
      p.Safe C (fun result state own =>
        C.suspends own state ∧ ∀ state', C.rely state state' → post result state' own) state own :=
  safe_settleThen p _ state own

@[simp] theorem safe_get {post : Post I I.State} (state : I.State) (own : List (Mark I)) :
    (get : Program I I.State).Safe C post state own ↔ post (.ok state) state own := Iff.rfl

@[simp] theorem safe_modify {post : Post I Unit} (f : I.State → I.State) (state : I.State)
    (own : List (Mark I)) :
    (modify f).Safe C post state own ↔ C.writes own state (f state) ∧ post (.ok ()) (f state) own := Iff.rfl

@[simp] theorem safe_output {post : Post I Unit} (o : I.Output) (state : I.State) (own : List (Mark I)) :
    (output o).Safe C post state own ↔
      C.events own state (.emitted o) ∧ post (.ok ()) state (own ++ [⟨state, .emitted o⟩]) := Iff.rfl

@[simp] theorem safe_get_bind {post : Post I β} (f : I.State → Program I β) (state : I.State)
    (own : List (Mark I)) : (get >>= f).Safe C post state own ↔ (f state).Safe C post state own := Iff.rfl

@[simp] theorem safe_modify_bind {post : Post I β} (g : I.State → I.State) (f : Unit → Program I β)
    (state : I.State) (own : List (Mark I)) :
    (modify g >>= f).Safe C post state own ↔
      C.writes own state (g state) ∧ (f ()).Safe C post (g state) own := Iff.rfl

@[simp] theorem safe_output_bind {post : Post I β} (o : I.Output) (f : Unit → Program I β)
    (state : I.State) (own : List (Mark I)) :
    (output o >>= f).Safe C post state own ↔
      C.events own state (.emitted o) ∧ (f ()).Safe C post state (own ++ [⟨state, .emitted o⟩]) := Iff.rfl

/-- `try { await p } catch`, followed by what depends on how it went. -/
@[simp] theorem safe_attempt_bind {post : Post I β} (p : Program I α) (f : Except I.Error α → Program I β)
    (state : I.State) (own : List (Mark I)) :
    (p.attempt >>= f).Safe C post state own ↔
      p.Safe C (fun result state own => (f result).Safe C post state own) state own :=
  ((safe_bind _ _ _ _).trans (safe_attempt _ _ _))

/-- A call is safe if it may be made and every answer leads to the postcondition. -/
theorem safe_request {q : I.Request} {post : Post I (I.Answer q)} (state : I.State) (own : List (Mark I)) :
    (request q).Safe C post state own ↔
      C.events own state (.called q) ∧ C.suspends (own ++ [⟨state, .called q⟩]) state ∧
      ∀ state', C.rely state state' → ∀ answer,
        post answer state' (own ++ [⟨state, .called q⟩] ++ [⟨state', .answered q answer⟩]) := Iff.rfl

/-- `try { await call } catch`, followed by what depends on the answer. -/
theorem safe_attempt_request_bind {q : I.Request} {post : Post I β}
    (f : Except I.Error (I.Answer q) → Program I β) (state : I.State) (own : List (Mark I)) :
    ((request q).attempt >>= f).Safe C post state own ↔
      C.events own state (.called q) ∧ C.suspends (own ++ [⟨state, .called q⟩]) state ∧
      ∀ state', C.rely state state' → ∀ answer, (f answer).Safe C post state'
        (own ++ [⟨state, .called q⟩] ++ [⟨state', .answered q answer⟩]) :=
  safe_attempt_bind _ _ _ _

/-- Every call and output among `marks`, made after `own`, satisfies the contract. -/
def Kept (C : Contract I) : List (Mark I) → List (Mark I) → Prop
  | _, [] => True
  | own, mark :: marks =>
      ((∀ request answer, mark.event ≠ .answered request answer) →
        C.events own mark.state mark.event) ∧ Kept C (own ++ [mark]) marks

theorem kept_append {own first second : List (Mark I)} (hfirst : Kept C own first)
    (hsecond : Kept C (own ++ first) second) : Kept C own (first ++ second) := by
  induction first generalizing own with
  | nil => simpa using hsecond
  | cons mark first ih =>
      refine ⟨hfirst.1, ih hfirst.2 ?_⟩
      simpa using hsecond

/-- An answer is not an obligation of the operation. -/
theorem kept_answered (own : List (Mark I)) (state : I.State) (request : I.Request)
    (answer : Except I.Error (I.Answer request)) :
    Kept C own [⟨state, .answered request answer⟩] :=
  ⟨fun h => absurd rfl (h request answer), trivial⟩

/-- The obligation of one mark in the middle of a run. -/
theorem Kept.split {own before after : List (Mark I)} {mark : Mark I}
    (h : Kept C own (before ++ mark :: after))
    (hmark : ∀ request answer, mark.event ≠ .answered request answer) :
    C.events (own ++ before) mark.state mark.event := by
  induction before generalizing own with
  | nil => simpa using h.1 hmark
  | cons first before ih => simpa using ih h.2

/-- What the contract still owes for a residual program: a suspended program is safe for every answer and
every change of the state it relies on. -/
def Resting (C : Contract I) (post : Post I α) : Program I α → I.State → List (Mark I) → Prop
  | done result, state, own => post result state own
  | call request next, state, own =>
      C.suspends own state ∧
      ∀ state', C.rely state state' → ∀ answer,
        (next answer).Safe C post state' (own ++ [⟨state', .answered request answer⟩])
  | pause next, state, own =>
      C.suspends own state ∧ ∀ state', C.rely state state' → next.Safe C post state' own
  | read _, _, _ | write _ _, _, _ | emit _ _, _, _ => False

@[simp] theorem resting_done {post : Post I α} (result : Except I.Error α) (state : I.State)
    (own : List (Mark I)) :
    (done result : Program I α).Resting C post state own ↔ post result state own := Iff.rfl

/-- What a suspended program owes includes what holds at its suspension. -/
theorem Resting.suspends {post : Post I α} {p : Program I α} {state : I.State} {own : List (Mark I)}
    (h : p.Resting C post state own) (hdone : ∀ result, p ≠ done result) : C.suspends own state := by
  cases p with
  | done result => exact absurd rfl (hdone result)
  | call request next => exact h.1
  | pause next => exact h.1
  | read next => exact h.elim
  | write state' next => exact h.elim
  | emit output next => exact h.elim

/-- The writes of a run, in order, each allowed by the contract at the marks made before it. -/
inductive Writes (C : Contract I) : List (Mark I) → I.State → I.State → List (Mark I) → Prop
  | refl (own : List (Mark I)) (state : I.State) : Writes C own state state own
  | write {own own' : List (Mark I)} {state state' state'' : I.State} (h : C.writes own state state')
      (rest : Writes C own state' state'' own') : Writes C own state state'' own'
  | mark {own own' : List (Mark I)} {state state' : I.State} (mark : Mark I)
      (rest : Writes C (own ++ [mark]) state state' own') : Writes C own state state' own'

/-- **The synchronous run of a safe program is safe**: its writes and events satisfy the contract, and so
does what is left of it. -/
theorem Safe.advance {post : Post I α} {p : Program I α} {state : I.State} {own : List (Mark I)}
    (h : p.Safe C post state own) :
    Kept C own (p.advance state).marks ∧
      Writes C own state (p.advance state).state (own ++ (p.advance state).marks) ∧
      (p.advance state).residual.Resting C post (p.advance state).state (own ++ (p.advance state).marks) := by
  induction p generalizing state own with
  | done result =>
      refine ⟨trivial, ?_, ?_⟩
      · simpa [Program.advance] using Writes.refl own state
      · simpa [Program.advance, Resting, Safe] using h
  | read next ih => exact ih state h
  | write state' next ih =>
      obtain ⟨hwrite, hnext⟩ := h
      obtain ⟨hkept, hwrites, hrest⟩ := ih hnext
      exact ⟨hkept, .write hwrite hwrites, hrest⟩
  | emit output next ih =>
      obtain ⟨hevent, hnext⟩ := h
      obtain ⟨hkept, hwrites, hrest⟩ := ih hnext
      refine ⟨⟨fun _ => hevent, hkept⟩, ?_, ?_⟩
      · exact .mark _ (by simpa [Program.advance] using hwrites)
      · simpa [Program.advance] using hrest
  | call request next ih =>
      obtain ⟨hevent, hsuspends, hnext⟩ := h
      refine ⟨⟨fun _ => hevent, trivial⟩, ?_, hsuspends, hnext⟩
      exact .mark _ (by simpa [Program.advance] using Writes.refl _ state)
  | pause next ih =>
      refine ⟨trivial, ?_, ?_⟩
      · simpa [Program.advance] using Writes.refl own state
      · simpa [Program.advance, Resting, Safe] using h

/-- A suspended program stays safe under the changes it relies on. -/
theorem Resting.rely {post : Post I α} {p : Program I α} {state state' : I.State} {own : List (Mark I)}
    (htrans : ∀ a b c, C.rely a b → C.rely b c → C.rely a c)
    (hsuspends : ∀ own a b, C.rely a b → C.suspends own a → C.suspends own b)
    (hrely : C.rely state state') (hdone : ∀ result, p ≠ done result)
    (h : p.Resting C post state own) : p.Resting C post state' own := by
  cases p with
  | done result => exact absurd rfl (hdone result)
  | call request next =>
      exact ⟨hsuspends _ _ _ hrely h.1,
        fun state'' hrely' answer => h.2 state'' (htrans _ _ _ hrely hrely') answer⟩
  | pause next =>
      exact ⟨hsuspends _ _ _ hrely h.1, fun state'' hrely' => h.2 state'' (htrans _ _ _ hrely hrely')⟩
  | read next => exact h.elim
  | write state' next => exact h.elim
  | emit output next => exact h.elim

end Program

end Async
end VoiceAssistants
