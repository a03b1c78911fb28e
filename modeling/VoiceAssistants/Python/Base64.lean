import Mathlib.Data.List.Basic

/-!
# URL-safe base64 as Python's `base64` module writes and reads it

`encode` is `urlsafe_b64encode` and `decode` is `urlsafe_b64decode`, which knows the standard digits too, leaves out what
is no digit, and stops at a padding that completes a group.  `decode_encode` reads back what was written.
-/

namespace VoiceAssistants
namespace Python
namespace Base64

/-- The digits, in the order of their values. -/
def alphabet : List Char :=
  "ABCDEFGHIJKLMNOPQRSTUVWXYZabcdefghijklmnopqrstuvwxyz0123456789-_".toList

def digit (value : Nat) : Char :=
  alphabet.getD value 'A'

/-- The value of a digit; `none` is another character. -/
def digitValue (c : Char) : Option Nat :=
  alphabet.idxOf? (if c = '+' then '-' else if c = '/' then '_' else c)

/-- `urlsafe_b64encode`: three bytes are four digits. -/
def encode : List UInt8 → List Char
  | [] => []
  | [a] => [digit (a.toNat / 4), digit (a.toNat % 4 * 16), '=', '=']
  | [a, b] => [digit (a.toNat / 4), digit (a.toNat % 4 * 16 + b.toNat / 16), digit (b.toNat % 16 * 4), '=']
  | a :: b :: c :: rest =>
      digit (a.toNat / 4) :: digit (a.toNat % 4 * 16 + b.toNat / 16) ::
        digit (b.toNat % 16 * 4 + c.toNat / 64) :: digit (c.toNat % 64) :: encode rest

/-- `a2b_base64` on the rest of a text, with `position` digits of the group read, the bits of the last that wait, and the
number of `=` since. -/
def scan : (position left pads : Nat) → List Char → Option (List UInt8)
  | position, _, _, [] => if position = 0 then some [] else none
  | position, left, pads, c :: rest =>
      if c = '=' then
        if 2 ≤ position ∧ 4 ≤ position + (pads + 1) then some [] else scan position left (pads + 1) rest
      else
        match digitValue c with
        | none => scan position left pads rest
        | some value =>
            if position = 0 then scan 1 value 0 rest
            else if position = 1 then (scan 2 (value % 16) 0 rest).map (UInt8.ofNat (left * 4 + value / 16) :: ·)
            else if position = 2 then (scan 3 (value % 4) 0 rest).map (UInt8.ofNat (left * 16 + value / 4) :: ·)
            else (scan 0 0 0 rest).map (UInt8.ofNat (left * 64 + value) :: ·)

/-- `urlsafe_b64decode`; `none` is the exception. -/
def decode (text : List Char) : Option (List UInt8) :=
  scan 0 0 0 text

/-! ## Digits -/

theorem alphabet_eq : alphabet =
    ['A', 'B', 'C', 'D', 'E', 'F', 'G', 'H', 'I', 'J', 'K', 'L', 'M', 'N', 'O', 'P', 'Q', 'R', 'S', 'T', 'U', 'V',
      'W', 'X', 'Y', 'Z', 'a', 'b', 'c', 'd', 'e', 'f', 'g', 'h', 'i', 'j', 'k', 'l', 'm', 'n', 'o', 'p', 'q', 'r',
      's', 't', 'u', 'v', 'w', 'x', 'y', 'z', '0', '1', '2', '3', '4', '5', '6', '7', '8', '9', '-', '_'] :=
  String.toList_ofList

/-- What a digit is: it is read as its value, is no padding, and is of ASCII. -/
theorem digit_facts : ∀ value < 64,
    digitValue (digit value) = some value ∧ digit value ≠ '=' ∧ (digit value).toNat < 0x80 := by
  unfold digitValue digit
  rw [alphabet_eq]
  decide +kernel

theorem digitValue_digit (value : Nat) (h : value < 64) : digitValue (digit value) = some value :=
  (digit_facts value h).1

theorem digit_ne_pad (value : Nat) (h : value < 64) : digit value ≠ '=' :=
  (digit_facts value h).2.1

theorem digit_lt (value : Nat) (h : value < 64) : (digit value).toNat < 0x80 :=
  (digit_facts value h).2.2

section Scanning

variable {value left pads : Nat} {rest : List Char}

theorem scan_cons (position left pads : Nat) (c : Char) (rest : List Char) : scan position left pads (c :: rest) =
    if c = '=' then
      if 2 ≤ position ∧ 4 ≤ position + (pads + 1) then some [] else scan position left (pads + 1) rest
    else
      match digitValue c with
      | none => scan position left pads rest
      | some value =>
          if position = 0 then scan 1 value 0 rest
          else if position = 1 then (scan 2 (value % 16) 0 rest).map (UInt8.ofNat (left * 4 + value / 16) :: ·)
          else if position = 2 then (scan 3 (value % 4) 0 rest).map (UInt8.ofNat (left * 16 + value / 4) :: ·)
          else (scan 0 0 0 rest).map (UInt8.ofNat (left * 64 + value) :: ·) := rfl

theorem scan_first (h : value < 64) : scan 0 left pads (digit value :: rest) = scan 1 value 0 rest := by
  rw [scan_cons, if_neg (digit_ne_pad value h), digitValue_digit value h]
  rfl

theorem scan_second (h : value < 64) : scan 1 left pads (digit value :: rest) =
    (scan 2 (value % 16) 0 rest).map (UInt8.ofNat (left * 4 + value / 16) :: ·) := by
  rw [scan_cons, if_neg (digit_ne_pad value h), digitValue_digit value h]
  rfl

theorem scan_third (h : value < 64) : scan 2 left pads (digit value :: rest) =
    (scan 3 (value % 4) 0 rest).map (UInt8.ofNat (left * 16 + value / 4) :: ·) := by
  rw [scan_cons, if_neg (digit_ne_pad value h), digitValue_digit value h]
  rfl

theorem scan_fourth (h : value < 64) : scan 3 left pads (digit value :: rest) =
    (scan 0 0 0 rest).map (UInt8.ofNat (left * 64 + value) :: ·) := by
  rw [scan_cons, if_neg (digit_ne_pad value h), digitValue_digit value h]
  rfl

end Scanning

theorem ofNat_eq {byte : UInt8} {value : Nat} (h : value = byte.toNat) : UInt8.ofNat value = byte := by
  rw [h, UInt8.ofNat_toNat]

/-! ## The round trip -/

/-- The first byte of a group, from its first two digits. -/
theorem scan_byte {a : UInt8} {extra : Nat} (hextra : extra < 16) (rest : List Char) :
    scan 0 0 0 (digit (a.toNat / 4) :: digit (a.toNat % 4 * 16 + extra) :: rest) =
      (scan 2 extra 0 rest).map (a :: ·) := by
  have ha : a.toNat < 256 := a.toNat_lt
  rw [scan_first (by omega), scan_second (by omega)]
  have hleft : (a.toNat % 4 * 16 + extra) % 16 = extra := by omega
  have hbyte : a.toNat / 4 * 4 + (a.toNat % 4 * 16 + extra) / 16 = a.toNat := by omega
  rw [hleft, ofNat_eq hbyte]

/-- The second byte of a group, from its third digit. -/
theorem scan_byte₂ {b : UInt8} {extra : Nat} (hextra : extra < 4) (rest : List Char) :
    scan 2 (b.toNat / 16) 0 (digit (b.toNat % 16 * 4 + extra) :: rest) = (scan 3 extra 0 rest).map (b :: ·) := by
  have hb : b.toNat < 256 := b.toNat_lt
  rw [scan_third (by omega)]
  have hleft : (b.toNat % 16 * 4 + extra) % 4 = extra := by omega
  have hbyte : b.toNat / 16 * 16 + (b.toNat % 16 * 4 + extra) / 4 = b.toNat := by omega
  rw [hleft, ofNat_eq hbyte]

/-- What was written is read back. -/
theorem decode_encode (bytes : List UInt8) : decode (encode bytes) = some bytes := by
  unfold decode
  induction bytes using encode.induct with
  | case1 => rfl
  | case2 a =>
      have hgroup := scan_byte (a := a) (show 0 < 16 by omega) ['=', '=']
      rw [Nat.add_zero] at hgroup
      rw [encode, hgroup]
      rfl
  | case3 a b =>
      have hb : b.toNat < 256 := b.toNat_lt
      have hdigit := scan_byte₂ (b := b) (show 0 < 4 by omega) ['=']
      rw [Nat.add_zero] at hdigit
      rw [encode, scan_byte (by omega), hdigit]
      rfl
  | case4 a b c rest ih =>
      have hb : b.toNat < 256 := b.toNat_lt
      have hc : c.toNat < 256 := c.toNat_lt
      have hbyte : c.toNat / 64 * 64 + c.toNat % 64 = c.toNat := by omega
      rw [encode, scan_byte (by omega), scan_byte₂ (by omega), scan_fourth (by omega), ih, ofNat_eq hbyte]
      rfl

theorem four_dvd_length_encode (bytes : List UInt8) : 4 ∣ (encode bytes).length := by
  induction bytes using encode.induct with
  | case1 => exact ⟨0, rfl⟩
  | case2 a => exact ⟨1, rfl⟩
  | case3 a b => exact ⟨1, rfl⟩
  | case4 a b c rest ih =>
      obtain ⟨groups, hgroups⟩ := ih
      exact ⟨groups + 1, by simp only [encode, List.length_cons]; omega⟩

/-- A written text is ASCII. -/
theorem lt_of_mem_encode {bytes : List UInt8} {c : Char} (h : c ∈ encode bytes) : c.toNat < 0x80 := by
  induction bytes using encode.induct with
  | case1 => cases h
  | case2 a =>
      have ha : a.toNat < 256 := a.toNat_lt
      simp only [encode, List.mem_cons, List.not_mem_nil, or_false] at h
      rcases h with rfl | rfl | rfl | rfl
      · exact digit_lt _ (by omega)
      · exact digit_lt _ (by omega)
      · decide
      · decide
  | case3 a b =>
      have ha : a.toNat < 256 := a.toNat_lt
      have hb : b.toNat < 256 := b.toNat_lt
      simp only [encode, List.mem_cons, List.not_mem_nil, or_false] at h
      rcases h with rfl | rfl | rfl | rfl
      · exact digit_lt _ (by omega)
      · exact digit_lt _ (by omega)
      · exact digit_lt _ (by omega)
      · decide
  | case4 a b c' rest ih =>
      have ha : a.toNat < 256 := a.toNat_lt
      have hb : b.toNat < 256 := b.toNat_lt
      have hc : c'.toNat < 256 := c'.toNat_lt
      simp only [encode, List.mem_cons] at h
      rcases h with rfl | rfl | rfl | rfl | h
      · exact digit_lt _ (by omega)
      · exact digit_lt _ (by omega)
      · exact digit_lt _ (by omega)
      · exact digit_lt _ (by omega)
      · exact ih h

theorem encode_ne_nil {bytes : List UInt8} (h : bytes ≠ []) : encode bytes ≠ [] := by
  intro hnil
  have hback := decode_encode bytes
  rw [hnil] at hback
  exact h (Option.some.inj hback).symm

end Base64
end Python
end VoiceAssistants
