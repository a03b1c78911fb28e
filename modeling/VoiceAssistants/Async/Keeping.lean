import VoiceAssistants.Async.EarlyReturn

/-!
# What holds from some mark on

A fact about the marks that an operation has made (something has been checked, something has begun) is not lost when
there are more of them.  `Lasting J` says so of `J`, and `Keeps C J Q p` is the triple whose precondition and invariant
it is: started when `J` holds, `p` keeps the contract `C`, `J` holds at its end, and a value that it gives satisfies `Q`.
The rules follow the syntax of programs and of the steps of a handler.
-/

namespace VoiceAssistants
namespace Async

variable {I : Interface} {R α β : Type}

/-- More marks do not make it false. -/
def Lasting (J : List (Mark I) → Prop) : Prop :=
  ∀ own mark, J own → J (own ++ [mark])

namespace Program

structure Keeps (C : Contract I) (J : List (Mark I) → Prop) (Q : α → Prop) (p : Program I α) : Prop where
  safe : ∀ state own, J own →
    p.Safe C (fun result _ own => J own ∧ ∀ value, result = .ok value → Q value) state own

variable {C : Contract I} {J : List (Mark I) → Prop} {Q : α → Prop} {Q' : β → Prop}

theorem keeps_pure {value : α} (h : Q value) : Keeps C J Q (pure value) := by
  constructor
  intro state own hown
  constructor
  · exact hown
  · intro value' hvalue
    obtain rfl := Except.ok.inj hvalue
    exact h

theorem keeps_error (error : I.Error) : Keeps C J Q (done (.error error)) := by
  constructor
  intro state own hown
  constructor
  · exact hown
  · intro value hvalue
    cases hvalue

theorem Keeps.imp {Q' : α → Prop} {p : Program I α} (hkeeps : Keeps C J Q p) (himp : ∀ value, Q value → Q' value) :
    Keeps C J Q' p := by
  constructor
  intro state own hown
  apply (hkeeps.safe state own hown).imp
  rintro result state' own' ⟨hown', hvalue⟩
  exact ⟨hown', fun value heq => himp value (hvalue value heq)⟩

theorem keeps_settleThen {p : Program I α} {f : Except I.Error α → Program I β} (hp : Keeps C J Q p)
    (hf : ∀ result, (∀ value, result = .ok value → Q value) → Keeps C J Q' (f result)) :
    Keeps C J Q' (p.settleThen f) := by
  constructor
  intro state own hown
  rw [safe_settleThen]
  apply (hp.safe state own hown).imp
  rintro result state' own' ⟨hown', hvalue⟩
  exact (hf result hvalue).safe state' own' hown'

theorem keeps_bind {p : Program I α} {f : α → Program I β} (hp : Keeps C J Q p)
    (hf : ∀ value, Q value → Keeps C J Q' (f value)) : Keeps C J Q' (p >>= f) := by
  apply keeps_settleThen hp
  intro result hvalue
  cases result with
  | ok value => exact hf value (hvalue value rfl)
  | error error => exact keeps_error error

theorem keeps_attempt {p : Program I α} (hp : Keeps C J Q p) :
    Keeps C J (fun result => ∀ value, result = .ok value → Q value) p.attempt := by
  apply keeps_settleThen hp
  intro result hvalue
  exact keeps_pure hvalue

/-- A call that may be made; nothing is known of its answer. -/
theorem keeps_request {q : I.Request} (hJ : Lasting J)
    (hevent : ∀ state own, J own → C.events own state (.called q))
    (hsuspends : ∀ own state, C.suspends own state) : Keeps C J (fun _ => True) (request q) := by
  constructor
  intro state own hown
  rw [safe_request]
  constructor
  · exact hevent state own hown
  · constructor
    · exact hsuspends _ _
    · intro state' _ answer
      exact ⟨hJ _ _ (hJ _ _ hown), fun _ _ => trivial⟩

end Program

namespace Handler

/-- The triple of a step: `Q` holds of the value that it goes on with. -/
structure Keeps (C : Contract I) (J : List (Mark I) → Prop) (Q : α → Prop) (h : Handler I R α) : Prop where
  safe : ∀ state own, J own → Handler.Safe C (fun value _ own => J own ∧ Q value) h state own

variable {C : Contract I} {J : List (Mark I) → Prop} {Q : α → Prop} {Q' : β → Prop}

theorem keeps_pure {value : α} (h : Q value) : Keeps C J Q (pure value : Handler I R α) := by
  constructor
  intro state own hown
  exact safe_pure ⟨hown, h⟩

theorem keeps_returns (response : R) : Keeps C J Q (returns response : Handler I R α) := by
  constructor
  intro state own _
  exact safe_returns response

theorem keeps_bind {h : Handler I R α} {f : α → Handler I R β} (hkeeps : Keeps C J Q h)
    (hf : ∀ value, Q value → Keeps C J Q' (f value)) : Keeps C J Q' (h >>= f) := by
  constructor
  intro state own hown
  apply safe_bind
  apply (hkeeps.safe state own hown).imp
  rintro value state' own' ⟨hown', hvalue⟩
  exact (hf value hvalue).safe state' own' hown'

theorem keeps_lift {p : Program I α} (hp : Program.Keeps C J Q p) : Keeps C J Q (lift p : Handler I R α) := by
  constructor
  intro state own hown
  apply safe_lift
  apply (hp.safe state own hown).imp
  rintro result state' own' ⟨hown', hvalue⟩ value heq
  exact ⟨hown', hvalue value heq⟩

end Handler

end Async
end VoiceAssistants
