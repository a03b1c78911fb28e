import Mathlib.Logic.Function.Basic

/-!
# Asynchronous operations as programs

An `async` function of a single-threaded event loop runs synchronously up to its next `await`, and any
other task may run before it is resumed.  `Program` is the syntax of such a function: it reads and writes
the state of the object it works on, emits outputs that the surrounding runtime interprets, calls an outside
dependency and suspends until the answer (a value or an exception) arrives, or just yields.

* `Program.settleThen` is the promise chaining `p.then(f, f)`: the continuation sees the value or the
  exception.  `bind`, `attempt` (a `try`/`catch` around one await) and `awaited` (awaiting an inner `async`
  function, which costs one turn of the loop) are instances of it.
* `Program.advance` runs the synchronous part of a program, up to its next suspension.
* `Mark` is one observable event of a program together with the state the object had at that moment.
-/

namespace VoiceAssistants
namespace Async

/-- What a family of programs works on: the state of the object, the outputs the runtime interprets, and
the dependencies with the type of their answers. -/
structure Interface where
  State : Type
  Output : Type
  Request : Type
  Answer : Request → Type
  Error : Type

/-- An asynchronous operation.  `call` suspends until its answer arrives, `pause` suspends for one turn of
the event loop; every other instruction is synchronous. -/
inductive Program (I : Interface) (α : Type) : Type
  | done (result : Except I.Error α)
  | read (next : I.State → Program I α)
  | write (state : I.State) (next : Program I α)
  | emit (output : I.Output) (next : Program I α)
  | call (request : I.Request) (next : Except I.Error (I.Answer request) → Program I α)
  | pause (next : Program I α)

/-- An observable event of a program. -/
inductive Event (I : Interface) : Type
  | called (request : I.Request)
  | answered (request : I.Request) (answer : Except I.Error (I.Answer request))
  | emitted (output : I.Output)

/-- An event together with the state of the object when it happened. -/
structure Mark (I : Interface) where
  state : I.State
  event : Event I

namespace Program

variable {I : Interface} {α β : Type}

/-- Continue with the outcome of a program, value or exception. -/
def settleThen : Program I α → (Except I.Error α → Program I β) → Program I β
  | done result, f => f result
  | read next, f => read fun state => (next state).settleThen f
  | write state next, f => write state (next.settleThen f)
  | emit output next, f => emit output (next.settleThen f)
  | call request next, f => call request fun answer => (next answer).settleThen f
  | pause next, f => pause (next.settleThen f)

instance : Monad (Program I) where
  pure value := done (.ok value)
  bind p f := p.settleThen fun
    | .ok value => f value
    | .error error => done (.error error)

/-- Read the state of the object. -/
def get : Program I I.State :=
  read fun state => done (.ok state)

/-- Update the state of the object. -/
def modify (f : I.State → I.State) : Program I Unit :=
  read fun state => write (f state) (done (.ok ()))

/-- Hand an output to the runtime. -/
def output (o : I.Output) : Program I Unit :=
  emit o (done (.ok ()))

/-- Call a dependency and wait for its answer; an exception is rethrown. -/
def request (q : I.Request) : Program I (I.Answer q) :=
  call q done

/-- `try { await p }`: the exception becomes a value. -/
def attempt (p : Program I α) : Program I (Except I.Error α) :=
  p.settleThen fun result => done (.ok result)

/-- `await p` for an inner `async` function: its outcome is seen one turn of the event loop later. -/
def awaited (p : Program I α) : Program I α :=
  p.settleThen fun result => pause (done result)

/-- What the synchronous part of a program leaves behind: the state, the marks it made, and the program
that is suspended or done. -/
structure Segment (I : Interface) (α : Type) where
  state : I.State
  marks : List (Mark I)
  residual : Program I α

/-- Run a program up to its next suspension.  A call is marked when the program suspends on it. -/
def advance : Program I α → I.State → Segment I α
  | done result, state => ⟨state, [], done result⟩
  | read next, state => (next state).advance state
  | write state' next, _ => next.advance state'
  | emit output next, state =>
      let rest := next.advance state
      { rest with marks := ⟨state, .emitted output⟩ :: rest.marks }
  | call request next, state => ⟨state, [⟨state, .called request⟩], call request next⟩
  | pause next, state => ⟨state, [], pause next⟩

/-- The residual of a segment is done or suspended: no synchronous instruction is left. -/
def Suspended : Program I α → Prop
  | done _ | call _ _ | pause _ => True
  | read _ | write _ _ | emit _ _ => False

theorem advance_suspended (p : Program I α) (state : I.State) : (p.advance state).residual.Suspended := by
  induction p generalizing state with
  | done result => trivial
  | read next ih => exact ih state state
  | write state' next ih => exact ih state'
  | emit output next ih => exact ih state
  | call request next ih => trivial
  | pause next ih => trivial

/-- The last of the marks is the call the program is suspended on, if it is suspended on one. -/
def Called (p : Program I α) (marks : List (Mark I)) : Prop :=
  ∀ q next, p = call q next → ∃ earlier state, marks = earlier ++ [⟨state, .called q⟩]

/-- A program that is suspended on a call has just marked it. -/
theorem advance_called (p : Program I α) (state : I.State) (own : List (Mark I)) :
    (p.advance state).residual.Called (own ++ (p.advance state).marks) := by
  induction p generalizing state own with
  | done result =>
      intro q next h
      cases h
  | read next ih => exact ih state state own
  | write state' next ih => exact ih state' own
  | emit output next ih =>
      have hnext := ih state (own ++ [⟨state, .emitted output⟩])
      rw [List.append_assoc] at hnext
      exact hnext
  | call request next ih =>
      intro q next' h
      injection h with hrequest
      subst hrequest
      exact ⟨own, state, rfl⟩
  | pause next ih =>
      intro q next' h
      cases h

end Program

end Async
end VoiceAssistants
