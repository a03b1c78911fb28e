import VoiceAssistants.Text
import Mathlib.Algebra.Order.Floor.Defs

/-!
# Digits and integers in Python

`decimalDigit` is `unicodedata.decimal`: the characters of the category `Nd`, which `\d` matches in a regular
expression and which `int` reads.  `parseInt` is `int(text)`, and `truncate` is `int(number)`.
-/

namespace VoiceAssistants
namespace Python

/-- The zeros of Unicode's decimal digits; the nine others follow each. -/
def decimalZeros : List Nat :=
  [0x30, 0x660, 0x6f0, 0x7c0, 0x966, 0x9e6, 0xa66, 0xae6, 0xb66, 0xbe6, 0xc66, 0xce6, 0xd66, 0xde6, 0xe50, 0xed0,
    0xf20, 0x1040, 0x1090, 0x17e0, 0x1810, 0x1946, 0x19d0, 0x1a80, 0x1a90, 0x1b50, 0x1bb0, 0x1c40, 0x1c50, 0xa620,
    0xa8d0, 0xa900, 0xa9d0, 0xa9f0, 0xaa50, 0xabf0, 0xff10, 0x104a0, 0x10d30, 0x11066, 0x110f0, 0x11136, 0x111d0,
    0x112f0, 0x11450, 0x114d0, 0x11650, 0x116c0, 0x11730, 0x118e0, 0x11950, 0x11c50, 0x11d50, 0x11da0, 0x11f50,
    0x16a60, 0x16ac0, 0x16b50, 0x1d7ce, 0x1d7d8, 0x1d7e2, 0x1d7ec, 0x1d7f6, 0x1e140, 0x1e2f0, 0x1e4f0, 0x1e950,
    0x1fbf0]

/-- The value of a decimal digit. -/
def decimalDigit (c : Char) : Option Nat :=
  (decimalZeros.find? fun first => first ≤ c.toNat && c.toNat < first + 10).map (c.toNat - ·)

theorem decimalDigit_lt {c : Char} {digit : Nat} (h : decimalDigit c = some digit) : digit < 10 := by
  obtain ⟨first, hfind, rfl⟩ := Option.map_eq_some_iff.mp h
  have hrange := List.find?_some hfind
  rw [Bool.and_eq_true_iff, decide_eq_true_eq, decide_eq_true_eq] at hrange
  omega

/-- Where the decimal digits are, as far as the white space and the punctuation of ASCII need it. -/
theorem toNat_of_decimalDigit {c : Char} {digit : Nat} (h : decimalDigit c = some digit) :
    0x30 ≤ c.toNat ∧ (c.toNat ≤ 0x39 ∨ 0x660 ≤ c.toNat) ∧ c.toNat ≠ 0x1680 ∧ (c.toNat < 0x2000 ∨ 0x3000 < c.toNat) := by
  have hzeros : ∀ first ∈ decimalZeros, (first = 0x30 ∨ 0x660 ≤ first) ∧ (first + 9 < 0x1680 ∨ 0x1680 < first) ∧
      (first + 9 < 0x2000 ∨ 0x3000 < first) := by
    decide +kernel
  obtain ⟨first, hfind, -⟩ := Option.map_eq_some_iff.mp h
  have hzero := hzeros first (List.mem_of_find?_eq_some hfind)
  have hrange := List.find?_some hfind
  rw [Bool.and_eq_true_iff, decide_eq_true_eq, decide_eq_true_eq] at hrange
  omega

theorem isSpace_of_decimalDigit {c : Char} {digit : Nat} (h : decimalDigit c = some digit) : isSpace c = false := by
  have hcode := toNat_of_decimalDigit h
  unfold isSpace
  simp only [Bool.or_eq_false_iff, Bool.and_eq_false_iff, decide_eq_false_iff_not, beq_eq_false_iff_ne]
  omega

theorem isDigit_eq {c : Char} : c.isDigit = true ↔ 0x30 ≤ c.toNat ∧ c.toNat ≤ 0x39 := by
  unfold Char.isDigit
  rw [Bool.and_eq_true_iff, decide_eq_true_eq, decide_eq_true_eq]
  exact Iff.rfl

/-- Of the decimal digits, those of ASCII. -/
theorem decimalDigit_of_isDigit {c : Char} (h : c.isDigit = true) : decimalDigit c = some (c.toNat - 0x30) := by
  have hcode := isDigit_eq.mp h
  have hfind : decimalZeros.find? (fun first => first ≤ c.toNat && c.toNat < first + 10) = some 0x30 := by
    unfold decimalZeros
    rw [List.find?_cons_of_pos]
    rw [Bool.and_eq_true_iff, decide_eq_true_eq, decide_eq_true_eq]
    omega
  unfold decimalDigit
  rw [hfind]
  rfl

/-- The white space that `int` drops at both ends: of the characters of `str.isspace`, all but the four separators
of ASCII. -/
def isIntSpace (c : Char) : Bool :=
  isSpace c && !(0x1c ≤ c.toNat && c.toNat ≤ 0x1f)

/-- A run of digits, in which single underscores may stand between two digits. -/
def digitsValue : (value : Nat) → (afterDigit : Bool) → List Char → Option Nat
  | value, afterDigit, [] => if afterDigit then some value else none
  | value, afterDigit, c :: rest =>
      if c = '_' then if afterDigit then digitsValue value false rest else none
      else
        match decimalDigit c with
        | some digit => digitsValue (value * 10 + digit) true rest
        | none => none

/-- `int(text)`; `none` is the `ValueError`. -/
def parseInt (text : String) : Option Int :=
  match (text.toList.dropWhile isIntSpace).rdropWhile isIntSpace with
  | '-' :: digits => (digitsValue 0 false digits).map fun value => -(value : Int)
  | '+' :: digits => (digitsValue 0 false digits).map fun value => (value : Int)
  | digits => (digitsValue 0 false digits).map fun value => (value : Int)

/-- Two decimal digits. -/
theorem parseInt_digits {tens units : Char} {a b : Nat} (htens : decimalDigit tens = some a)
    (hunits : decimalDigit units = some b) : parseInt (String.ofList [tens, units]) = some ((a * 10 + b : Nat) : Int) := by
  have htensCode := toNat_of_decimalDigit htens
  have hunitsCode := toNat_of_decimalDigit hunits
  have hspace : ∀ c ∈ [tens, units], isIntSpace c = false := by
    intro c hc
    have hdigit : isSpace c = false := by
      rcases List.mem_pair.mp hc with rfl | rfl
      · exact isSpace_of_decimalDigit htens
      · exact isSpace_of_decimalDigit hunits
    rw [isIntSpace, hdigit, Bool.false_and]
  have htrim : ([tens, units].dropWhile isIntSpace).rdropWhile isIntSpace = [tens, units] := by
    rw [List.dropWhile_cons_of_neg, List.rdropWhile_eq_self_iff]
    · intro _
      rw [hspace _ (List.getLast_mem _)]
      exact Bool.false_ne_true
    · rw [hspace tens List.mem_cons_self]
      exact Bool.false_ne_true
  -- neither character is a sign or an underscore
  have hne : ∀ c : Char, c.toNat = 0x2d ∨ c.toNat = 0x2b ∨ c.toNat = 0x5f → c ≠ tens ∧ c ≠ units := by
    intro c hc
    constructor
    · rintro rfl
      omega
    · rintro rfl
      omega
  have hminus := (hne '-' (by decide)).1
  have hplus := (hne '+' (by decide)).1
  have hunder := hne '_' (by decide)
  have hvalue : digitsValue 0 false [tens, units] = some (a * 10 + b) := by
    simp only [digitsValue, hunder.1.symm, hunder.2.symm, htens, hunits, ↓reduceIte, Nat.zero_mul, Nat.zero_add]
  unfold parseInt
  rw [String.toList_ofList, htrim]
  split
  · rename_i heq
    exact absurd (List.cons.inj heq).1.symm hminus
  · rename_i heq
    exact absurd (List.cons.inj heq).1.symm hplus
  · rw [hvalue]
    rfl

example : parseInt " -12_0\n" = some (-120) := by decide +kernel

/-- `int(number)` rounds towards zero. -/
def truncate {K : Type} [Ring K] [LinearOrder K] [FloorRing K] (number : K) : Int :=
  if 0 ≤ number then FloorRing.floor number else FloorRing.ceil number

end Python
end VoiceAssistants
