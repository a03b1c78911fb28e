import VoiceAssistants.Async.Safety

/-!
# Operations that return early

A handler is written as a sequence of steps, and each step may answer the request instead of going on.
`Handler I R α` is a step that goes on with a value of `α` or returns an `R`; it may raise as every operation may.

`Handler.Safe C post` asks the contract of everything the step does and `post` where it goes on, so the rules chain the
steps: an early return and an exception owe nothing more.
-/

namespace VoiceAssistants
namespace Async

/-- A step of an operation that returns an `R`. -/
abbrev Handler (I : Interface) (R α : Type) := ExceptT R (Program I) α

namespace Handler

variable {I : Interface} {R α β : Type}

/-- `return response` -/
def returns (response : R) : Handler I R α :=
  ExceptT.mk (pure (.error response))

/-- An operation that is one step. -/
def lift (p : Program I α) : Handler I R α :=
  ExceptT.lift p

/-- The operation whose steps these are. -/
def respond (h : Handler I R R) : Program I R := do
  match ← h.run with
  | .ok response => return response
  | .error response => return response

/-- The step keeps the contract, and `post` holds where it goes on. -/
def Safe (C : Contract I) (post : α → I.State → List (Mark I) → Prop) (h : Handler I R α) (state : I.State)
    (own : List (Mark I)) : Prop :=
  h.run.Safe C (fun result state own => ∀ value, result = .ok (.ok value) → post value state own) state own

variable {C : Contract I} {post : α → I.State → List (Mark I) → Prop} {state : I.State} {own : List (Mark I)}

/-- The consequence rule. -/
theorem Safe.imp {post' : α → I.State → List (Mark I) → Prop} {h : Handler I R α} (hsafe : h.Safe C post state own)
    (himp : ∀ value state own, post value state own → post' value state own) : h.Safe C post' state own := by
  apply Program.Safe.imp hsafe
  intro result state own hpost value hresult
  exact himp value state own (hpost value hresult)

theorem safe_pure {value : α} (h : post value state own) : (pure value : Handler I R α).Safe C post state own := by
  intro value' hvalue
  obtain rfl := Except.ok.inj (Except.ok.inj hvalue)
  exact h

/-- After an early return nothing more is owed. -/
theorem safe_returns (response : R) : (returns response : Handler I R α).Safe C post state own := by
  intro value hvalue
  cases Except.ok.inj hvalue

theorem safe_bind {post : β → I.State → List (Mark I) → Prop} {h : Handler I R α} {f : α → Handler I R β}
    (hsafe : h.Safe C (fun value state own => (f value).Safe C post state own) state own) :
    (h >>= f).Safe C post state own := by
  show (h.run >>= ExceptT.bindCont f).Safe C _ state own
  rw [Program.safe_bind]
  apply Program.Safe.imp hsafe
  intro result state own hpost
  cases result with
  | ok returned =>
      cases returned with
      | ok value => exact hpost value rfl
      | error response => exact safe_returns response
  | error error =>
      intro value hvalue
      cases hvalue

theorem safe_lift {p : Program I α}
    (h : p.Safe C (fun result state own => ∀ value, result = .ok value → post value state own) state own) :
    (lift p : Handler I R α).Safe C post state own := by
  show Program.Safe C _ (p >>= fun value => (pure (.ok value) : Program I (Except R α))) state own
  rw [Program.safe_bind]
  apply Program.Safe.imp h
  intro result state own hpost
  cases result with
  | ok value => exact safe_pure (hpost value rfl)
  | error error =>
      intro value hvalue
      cases hvalue

/-- The operation is safe if its steps are. -/
theorem safe_respond {h : Handler I R R} (hsafe : h.Safe C (fun _ _ _ => True) state own) :
    h.respond.Safe C (fun _ _ _ => True) state own := by
  unfold respond
  rw [Program.safe_bind]
  apply Program.Safe.imp hsafe
  intro result state own _
  cases result with
  | ok returned =>
      cases returned with
      | ok response => trivial
      | error response => trivial
  | error error => trivial

end Handler

end Async
end VoiceAssistants
