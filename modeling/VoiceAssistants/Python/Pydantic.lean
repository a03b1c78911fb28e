import VoiceAssistants.Python.Integers
import VoiceAssistants.Python.JsonText

/-!
# Fields of a pydantic model

How a model reads the fields of a JSON object, in the lax mode and with `str_strip_whitespace`: text is stripped before
it is checked, `null` is the default's `None`, and a field that is absent takes its default unchecked.  What counts as an
integer or as a truth value is the parameter `Lax`.  `none` is the `ValidationError`.
-/

namespace VoiceAssistants
namespace Python

/-- How pydantic reads a value as `int` and as `bool`. -/
structure Lax where
  int : Json → Option Int
  bool : Json → Option Bool

/-- The text without white space at its ends; Unicode's white space is what `int` drops. -/
def trim (text : String) : String :=
  String.ofList ((text.toList.dropWhile isIntSpace).rdropWhile isIntSpace)

/-- The length is within bounds. -/
def lengthIn (low high : Nat) (text : String) : Bool :=
  low ≤ text.length && text.length ≤ high

theorem lengthIn_zero {high : Nat} : lengthIn 0 high = fun text => decide (text.length ≤ high) := by
  funext text
  rw [lengthIn, decide_eq_true (Nat.zero_le text.length), Bool.true_and]

/-- `str` -/
def readText (check : String → Bool) : Json → Option String
  | .str value => if check (trim value) then some (trim value) else none
  | _ => none

/-- `list[str]` -/
def readTexts : Json → Option (List String)
  | .arr items => items.mapM (readText fun _ => true)
  | _ => none

/-- `int` with `ge` and `le`, for bounds that are not negative. -/
def readInt (lax : Lax) (low high : Int) (value : Json) : Option Nat :=
  match lax.int value with
  | some number => if low ≤ number ∧ number ≤ high then some number.toNat else none
  | none => none

/-- `name: T` -/
def required {T : Type} (read : Json → Option T) (raw : Json) (name : String) : Option T :=
  (raw.member? name).bind read

/-- `name: T = default` -/
def defaulted {T : Type} (read : Json → Option T) (default : T) (raw : Json) (name : String) : Option T :=
  match raw.member? name with
  | none => some default
  | some value => read value

/-- `T | None` -/
def nullable {T : Type} (read : Json → Option T) : Json → Option (Option T)
  | .null => some none
  | value => (read value).map some

/-- `extra="forbid"` -/
def forbidExtra (names : List String) : Json → Option Unit
  | .obj members => if members.all fun member => names.contains member.1 then some () else none
  | _ => none

/-- The text that a field gives, when it gives one. -/
def rawText (raw : Json) (name : String) : Option String :=
  match raw.member? name with
  | some (.str value) => some (trim value)
  | _ => none

/-- The number of items that a field gives. -/
def rawLength (raw : Json) (name : String) : Nat :=
  match raw.member? name with
  | some (.arr items) => items.length
  | _ => 0

section Reading

variable {raw : Json} {name : String} {check : String → Bool}

theorem readText_eq_some {value : Json} {text : String} (h : readText check value = some text) :
    (∃ string, value = .str string ∧ text = trim string) ∧ check text = true := by
  cases value with
  | str string =>
      rw [readText] at h
      split at h
      · rename_i hcheck
        obtain rfl := Option.some.inj h
        exact ⟨⟨string, rfl, rfl⟩, hcheck⟩
      · cases h
  | null => cases h
  | bool => cases h
  | int => cases h
  | float => cases h
  | arr => cases h
  | obj => cases h

/-- A text that is required is the one that the field gives, and has passed its check. -/
theorem required_text {text : String} (h : required (readText check) raw name = some text) :
    rawText raw name = some text ∧ check text = true := by
  obtain ⟨value, hvalue, hread⟩ := Option.bind_eq_some_iff.mp h
  obtain ⟨⟨string, rfl, rfl⟩, hcheck⟩ := readText_eq_some hread
  rw [rawText, hvalue]
  exact ⟨rfl, hcheck⟩

/-- An optional text is the one that the field gives, and has passed its check. -/
theorem optional_text {text : Option String} (h : defaulted (nullable (readText check)) none raw name = some text) :
    rawText raw name = text ∧ text.all check = true := by
  unfold defaulted at h
  unfold rawText
  cases hvalue : raw.member? name with
  | none =>
      rw [hvalue] at h
      obtain rfl := Option.some.inj h
      exact ⟨rfl, rfl⟩
  | some value =>
      rw [hvalue] at h
      cases value with
      | null =>
          obtain rfl := Option.some.inj h
          exact ⟨rfl, rfl⟩
      | str string =>
          obtain ⟨read, hread, rfl⟩ := Option.map_eq_some_iff.mp h
          obtain ⟨⟨string', hstring, rfl⟩, hcheck⟩ := readText_eq_some hread
          cases hstring
          exact ⟨rfl, hcheck⟩
      | bool => cases h
      | int => cases h
      | float => cases h
      | arr => cases h
      | obj => cases h

theorem length_of_mapM {α β : Type} {read : α → Option β} {items : List α} {values : List β}
    (h : items.mapM read = some values) : values.length = items.length := by
  induction items generalizing values with
  | nil =>
      obtain rfl := Option.some.inj h
      rfl
  | cons item items ih =>
      rw [List.mapM_cons] at h
      obtain ⟨value, -, hrest⟩ := Option.bind_eq_some_iff.mp h
      obtain ⟨rest, hmap, hcons⟩ := Option.bind_eq_some_iff.mp hrest
      obtain rfl := Option.some.inj hcons
      rw [List.length_cons, List.length_cons, ih hmap]

/-- A list of texts has as many items as the field gives. -/
theorem defaulted_texts {texts : List String} (h : defaulted readTexts [] raw name = some texts) :
    texts.length = rawLength raw name := by
  unfold defaulted at h
  unfold rawLength
  cases hvalue : raw.member? name with
  | none =>
      rw [hvalue] at h
      obtain rfl := Option.some.inj h
      rfl
  | some value =>
      rw [hvalue] at h
      cases value with
      | arr items => exact length_of_mapM h
      | null => cases h
      | bool => cases h
      | int => cases h
      | float => cases h
      | str => cases h
      | obj => cases h

theorem readInt_bounds {lax : Lax} {low high : Nat} {value : Json} {number : Nat}
    (h : readInt lax low high value = some number) : low ≤ number ∧ number ≤ high := by
  unfold readInt at h
  split at h
  · split at h
    · obtain rfl := Option.some.inj h
      omega
    · cases h
  · cases h

theorem defaulted_int {lax : Lax} {low high default number : Nat} (hdefault : low ≤ default ∧ default ≤ high)
    (h : defaulted (readInt lax low high) default raw name = some number) : low ≤ number ∧ number ≤ high := by
  unfold defaulted at h
  cases hvalue : raw.member? name with
  | none =>
      rw [hvalue] at h
      obtain rfl := Option.some.inj h
      exact hdefault
  | some value =>
      rw [hvalue] at h
      exact readInt_bounds h

end Reading

end Python
end VoiceAssistants
