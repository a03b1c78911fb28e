import VoiceAssistants.Async.Safety

/-!
# Operations that nothing runs beside

An operation whose object is changed by nobody else while it is suspended has the contract `alone`, which asks nothing of
it: `Safe alone` is its weakest precondition.  `execute` runs it to its end for given answers, which may depend on all that
has happened, and `Safe.execute` says that what is proved for all answers holds of every run.
-/

namespace VoiceAssistants
namespace Async

/-- Nobody else changes the state, and everything is permitted. -/
def alone (I : Interface) : Contract I where
  rely := Eq
  writes _ _ _ := True
  events _ _ _ := True
  suspends _ _ := True

namespace Program

variable {I : Interface} {α : Type}

/-- The outcome of a run, the state after it, and the marks that were made, when `respond` answers the calls. -/
def execute (respond : List (Mark I) → (request : I.Request) → Except I.Error (I.Answer request)) :
    Program I α → I.State → List (Mark I) → Except I.Error α × I.State × List (Mark I)
  | done result, state, own => (result, state, own)
  | read next, state, own => (next state).execute respond state own
  | write written next, _, own => next.execute respond written own
  | emit output next, state, own => next.execute respond state (own ++ [⟨state, .emitted output⟩])
  | call request next, state, own =>
      let answer := respond (own ++ [⟨state, .called request⟩]) request
      (next answer).execute respond state (own ++ [⟨state, .called request⟩] ++ [⟨state, .answered request answer⟩])
  | pause next, state, own => next.execute respond state own

/-- What is proved for all answers holds of a run. -/
theorem Safe.execute {post : Post I α} {p : Program I α} {state : I.State} {own : List (Mark I)}
    (h : p.Safe (alone I) post state own)
    (respond : List (Mark I) → (request : I.Request) → Except I.Error (I.Answer request)) :
    post (p.execute respond state own).1 (p.execute respond state own).2.1 (p.execute respond state own).2.2 := by
  induction p generalizing state own with
  | done result => exact h
  | read next ih => exact ih state h
  | write written next ih => exact ih h.2
  | emit output next ih => exact ih h.2
  | call request next ih =>
      obtain ⟨-, -, hnext⟩ := h
      exact ih _ (hnext state rfl _)
  | pause next ih =>
      obtain ⟨-, hnext⟩ := h
      exact ih (hnext state rfl)

theorem safe_request_alone {q : I.Request} {post : Post I (I.Answer q)} {state : I.State} {own : List (Mark I)}
    (h : ∀ answer, post answer state (own ++ [⟨state, .called q⟩] ++ [⟨state, .answered q answer⟩])) :
    (request q).Safe (alone I) post state own := by
  rw [safe_request]
  refine ⟨trivial, trivial, ?_⟩
  rintro _ rfl answer
  exact h answer

end Program

end Async
end VoiceAssistants
