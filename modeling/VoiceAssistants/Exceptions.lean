import Mathlib.Data.List.Forall2

/-!
# Computations that may fail

A step that may fail returns an `Except`.  The lemmas take what was accepted apart: a sequence into its steps, a list
into its items, and a loop into what every accepted turn keeps.

A handler returns a value in the place of some exceptions.  The `Ending` of a step says what becomes of it there, and
the ending of a sequence is that of its first step which does not return.
-/

namespace VoiceAssistants
namespace Exceptions

variable {ε α β σ : Type}

/-- A sequence succeeds where both of its steps do. -/
theorem bind_eq_ok {first : Except ε α} {next : α → Except ε β} {result : β} :
    first >>= next = .ok result ↔ ∃ value, first = .ok value ∧ next value = .ok result := by
  cases first with
  | error message =>
      constructor
      · intro h
        cases h
      · rintro ⟨value, h, -⟩
        cases h
  | ok value =>
      constructor
      · exact fun h => ⟨value, rfl, h⟩
      · rintro ⟨other, h, hnext⟩
        cases h
        exact hnext

theorem toOption_eq_some {outcome : Except ε α} {value : α} :
    outcome.toOption = some value ↔ outcome = .ok value := by
  cases outcome with
  | error message =>
      constructor
      · intro h
        cases h
      · intro h
        cases h
  | ok result =>
      constructor
      · exact fun h => congrArg Except.ok (Option.some.inj h)
      · exact fun h => congrArg some (Except.ok.inj h)

/-- A list is read where each of its items is. -/
theorem forall₂_of_mapM {read : α → Except ε β} {items : List α} {results : List β}
    (h : items.mapM read = .ok results) : List.Forall₂ (fun item result => read item = .ok result) items results := by
  induction items generalizing results with
  | nil =>
      cases h
      exact .nil
  | cons item items ih =>
      simp only [List.mapM_cons, bind_eq_ok] at h
      obtain ⟨result, hread, rest, hrest, hresults⟩ := h
      cases hresults
      exact .cons hread (ih hrest)

/-- What the reader returns is a function of the items, where it is so for one item. -/
theorem eq_map_of_mapM {read : α → Except ε β} {value : α → β} {items : List α} {results : List β}
    (hread : ∀ item result, read item = .ok result → result = value item) (h : items.mapM read = .ok results) :
    results = items.map value := by
  have hresults := forall₂_of_mapM h
  clear h
  induction hresults with
  | nil => rfl
  | cons hitem _ ih => rw [List.map_cons, hread _ _ hitem, ih]

/-- What holds before a loop, and what every accepted turn carries on to the items so far, holds of all items after the
loop. -/
theorem foldlM_induction {step : σ → α → Except ε σ} {motive : List α → σ → Prop} {start : σ}
    (hstart : motive [] start)
    (hstep : ∀ before state item next, motive before state → step state item = .ok next →
      motive (before ++ [item]) next) {items : List α} {final : σ} (h : items.foldlM step start = .ok final) :
    motive items final := by
  -- the turns so far are a prefix of the items
  have hrun : ∀ (rest before : List α) (state : σ), motive before state → rest.foldlM step state = .ok final →
      motive (before ++ rest) final := by
    intro rest
    induction rest with
    | nil =>
        intro before state hmotive hrest
        cases hrest
        rw [List.append_nil]
        exact hmotive
    | cons item rest ih =>
        intro before state hmotive hrest
        rw [List.foldlM_cons, bind_eq_ok] at hrest
        obtain ⟨next, hnext, hrest⟩ := hrest
        have hfinal := ih (before ++ [item]) next (hstep before state item next hmotive hnext) hrest
        rw [List.append_assoc] at hfinal
        exact hfinal
  exact hrun items [] start hstart h

/-! ## Handlers -/

/-- What becomes of a step under a handler. -/
inductive Ending
  | returned
  | caught
  | escaped
  deriving DecidableEq, Repr

/-- The second step is taken where the first returns. -/
def Ending.andThen : Ending → Ending → Ending
  | .returned, next => next
  | .caught, _ => .caught
  | .escaped, _ => .escaped

@[simp] theorem Ending.caught_andThen (next : Ending) : Ending.caught.andThen next = .caught := rfl

@[simp] theorem Ending.escaped_andThen (next : Ending) : Ending.escaped.andThen next = .escaped := rfl

section Handler

variable (catches : ε → Bool)

def ending : Except ε α → Ending
  | .ok _ => .returned
  | .error exception => if catches exception then .caught else .escaped

/-- `try: … except …: return otherwise` -/
def handle (otherwise : α) : Except ε α → Except ε α
  | .ok value => .ok value
  | .error exception => if catches exception then .ok otherwise else .error exception

variable {catches}

@[simp] theorem ending_ok (value : α) : ending catches (.ok value : Except ε α) = .returned := rfl

theorem ending_of_caught {exception : ε} (h : catches exception = true) :
    ending catches (.error exception : Except ε α) = .caught := by
  simp [ending, h]

theorem ending_of_escaped {exception : ε} (h : catches exception = false) :
    ending catches (.error exception : Except ε α) = .escaped := by
  simp [ending, h]

/-- After an exception no step is taken. -/
theorem ending_error_andThen (exception : ε) (last : Ending) :
    (ending catches (.error exception : Except ε α)).andThen last =
      ending catches (.error exception : Except ε β) := by
  cases hcaught : catches exception with
  | true => rw [ending_of_caught hcaught, ending_of_caught hcaught, Ending.caught_andThen]
  | false => rw [ending_of_escaped hcaught, ending_of_escaped hcaught, Ending.escaped_andThen]

/-- An exception escapes a sequence where it escapes the first step, or the second after the first has returned. -/
theorem escapes_bind {first : Except ε α} {next : α → Except ε β} {last : Ending}
    (h : ∀ value, first = .ok value → (ending catches (next value) = .escaped ↔ last = .escaped)) :
    ending catches (first >>= next) = .escaped ↔ (ending catches first).andThen last = .escaped := by
  cases first with
  | ok value => exact h value rfl
  | error exception =>
      rw [ending_error_andThen (β := β)]
      exact Iff.rfl

/-- A computation whose results are authentic fails closed exactly where no exception escapes its handler. -/
theorem failsClosed_iff {Authentic : Prop} {outcome : Except ε (Option α)}
    (h : ∀ value, outcome = .ok (some value) → Authentic) :
    (¬Authentic → handle catches none outcome = .ok none) ↔ Authentic ∨ ending catches outcome ≠ .escaped := by
  by_cases hauthentic : Authentic
  · exact ⟨fun _ => .inl hauthentic, fun _ hnot => absurd hauthentic hnot⟩
  · cases outcome with
    | ok result =>
        cases result with
        | none => exact ⟨fun _ => .inr Ending.noConfusion, fun _ _ => rfl⟩
        | some value => exact absurd (h value rfl) hauthentic
    | error exception =>
        cases hcaught : catches exception with
        | true => simp [handle, ending_of_caught hcaught, hcaught]
        | false => simp [handle, ending_of_escaped hcaught, hcaught, hauthentic]

end Handler

end Exceptions
end VoiceAssistants
