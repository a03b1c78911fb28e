import VoiceAssistants.Collections.OrderedMap

/-!
# Two maps that are each other's inverse

A one-to-one relation is kept in two maps, one for each side.  `Inverse` says that they have the same pairs.  A pair can
be added if both of its sides are new, and only then (`Inverse.set_iff`); a pair that is there can be removed from both.
-/

namespace VoiceAssistants
namespace Collections

namespace OrderedMap

variable {K V : Type} [DecidableEq K] [DecidableEq V]

/-- Two maps have the same pairs, one from the left and the other from the right. -/
def Inverse (forward : OrderedMap K V) (backward : OrderedMap V K) : Prop :=
  ∀ key value, forward.get key = some value ↔ backward.get value = some key

variable {forward : OrderedMap K V} {backward : OrderedMap V K} {key : K} {value : V}

theorem inverse_empty : Inverse (empty : OrderedMap K V) (empty : OrderedMap V K) := by
  intro key value
  simp

/-- A pair of which both sides are new. -/
theorem Inverse.set (h : Inverse forward backward) (hkey : forward.get key = none) (hvalue : backward.get value = none) :
    Inverse (forward.set key value) (backward.set value key) := by
  intro key' value'
  rw [get_set, get_set]
  by_cases hk : key' = key
  · by_cases hv : value' = value
    · simp [hk, hv]
    · -- the key had no other value
      have hno : backward.get value' ≠ some key := by
        intro hback
        rw [(h key value').mpr hback] at hkey
        cases hkey
      have hne : value ≠ value' := fun heq => hv heq.symm
      simp [hk, hv, hno, hne]
  · by_cases hv : value' = value
    · have hno : forward.get key' ≠ some value := by
        intro hforth
        rw [(h key' value).mp hforth] at hvalue
        cases hvalue
      have hne : key ≠ key' := fun heq => hk heq.symm
      simp [hk, hv, hno, hne]
    · simpa [hk, hv] using h key' value'

/-- A new key can be paired with a value exactly if the value is new. -/
theorem Inverse.set_iff (h : Inverse forward backward) (hkey : forward.get key = none) :
    Inverse (forward.set key value) (backward.set value key) ↔ backward.get value = none := by
  constructor
  · intro hset
    cases hvalue : backward.get value with
    | none => rfl
    | some other =>
        -- the other key keeps its value, which now has the new key
        have hother : forward.get other = some value := (h other value).mpr hvalue
        have hne : other ≠ key := by
          rintro rfl
          rw [hkey] at hother
          cases hother
        have hback := (hset other value).mp (by rw [get_set_ne hne, hother])
        rw [get_set_self] at hback
        exact absurd (Option.some.inj hback).symm hne
  · exact h.set hkey

/-- A pair that is there. -/
theorem Inverse.delete (h : Inverse forward backward) (hpair : forward.get key = some value) :
    Inverse (forward.delete key) (backward.delete value) := by
  have hback := (h key value).mp hpair
  intro key' value'
  rw [get_delete, get_delete]
  by_cases hk : key' = key
  · by_cases hv : value' = value
    · simp [hk, hv]
    · have hno : backward.get value' ≠ some key := by
        intro hother
        have hforth := (h key value').mpr hother
        rw [hpair] at hforth
        exact hv (Option.some.inj hforth).symm
      simpa [hk, hv] using hno
  · by_cases hv : value' = value
    · have hno : forward.get key' ≠ some value := by
        intro hother
        have hback' := (h key' value).mp hother
        rw [hback] at hback'
        exact hk (Option.some.inj hback').symm
      simpa [hk, hv] using hno
    · simpa [hk, hv] using h key' value'

end OrderedMap

end Collections
end VoiceAssistants
