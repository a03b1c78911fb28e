import Mathlib.Data.List.Basic

/-!
# Lists that grow at the end and whose items are replaced

The calls, requests and entries of a system are numbered in the order in which they begin.  An item after a step is one
of before, or the one that the step has put there.
-/

namespace VoiceAssistants
namespace Collections

variable {α : Type} {items : List α} {item other : α} {position index : Nat}

/-- The items after one is added. -/
theorem getElem?_concat_cases (h : (items ++ [item])[position]? = some other) :
    items[position]? = some other ∨ (position = items.length ∧ other = item) := by
  rw [List.getElem?_append] at h
  split at h
  · exact .inl h
  · rw [List.getElem?_singleton] at h
    split at h
    · exact .inr ⟨by omega, (Option.some.inj h).symm⟩
    · cases h

/-- The items after one is replaced. -/
theorem getElem?_set_cases (h : (items.set index item)[position]? = some other) :
    (position = index ∧ other = item) ∨ (position ≠ index ∧ items[position]? = some other) := by
  rw [List.getElem?_set] at h
  split at h
  · rename_i heq
    split at h
    · exact .inl ⟨heq.symm, (Option.some.inj h).symm⟩
    · cases h
  · rename_i hne
    exact .inr ⟨Ne.symm hne, h⟩

end Collections
end VoiceAssistants
