import VoiceAssistants.Text
import Mathlib.Algebra.Group.Nat.Defs

/-!
# UUIDs and their texts

`uuid.UUID(str(uuid))` is the UUID: its text is 32 hexadecimal digits in groups, which the parser reads back.
-/

namespace VoiceAssistants

/-! ## Hexadecimal digits -/

theorem hexDigit_digitChar {digit : Nat} (h : digit < 16) : hexDigit (Nat.digitChar digit) = some digit := by
  have hall : ∀ digit ∈ List.range 16, hexDigit (Nat.digitChar digit) = some digit := by decide
  exact hall digit (List.mem_range.mpr h)

/-- The characters of a UUID's digits. -/
theorem digitChar_ne {digit : Nat} (h : digit < 16) :
    Nat.digitChar digit ≠ 'u' ∧ Nat.digitChar digit ≠ '-' ∧ (Nat.digitChar digit).toNat ≠ 0x7b ∧
      (Nat.digitChar digit).toNat ≠ 0x7d := by
  have hall : ∀ digit ∈ List.range 16, Nat.digitChar digit ≠ 'u' ∧ Nat.digitChar digit ≠ '-' ∧
      (Nat.digitChar digit).toNat ≠ 0x7b ∧ (Nat.digitChar digit).toNat ≠ 0x7d := by decide
  exact hall digit (List.mem_range.mpr h)

/-- The digits of a number from the highest of `count` on. -/
def hexDigits (count value : Nat) : List Char :=
  (List.range count).map fun i => Nat.digitChar (value / 16 ^ (count - 1 - i) % 16)

theorem hexDigits_succ (count value : Nat) :
    hexDigits (count + 1) value = hexDigits count (value / 16) ++ [Nat.digitChar (value % 16)] := by
  unfold hexDigits
  rw [List.range_succ, List.map_append]
  congr 1
  · apply List.map_congr_left
    intro i hi
    have hlt := List.mem_range.mp hi
    have hpower : 16 ^ (count + 1 - 1 - i) = 16 * 16 ^ (count - 1 - i) := by
      rw [← Nat.pow_succ']
      congr 1
      omega
    rw [hpower, Nat.div_div_eq_div_mul]
  · simp

theorem hexValue_append_digit {digits : List Char} {value digit : Nat} (hdigits : hexValue digits = some value)
    (hdigit : digit < 16) : hexValue (digits ++ [Nat.digitChar digit]) = some (value * 16 + digit) := by
  unfold hexValue at hdigits ⊢
  rw [List.foldlM_append, hdigits]
  simp [hexDigit_digitChar hdigit]

/-- The digits of a number are read back. -/
theorem hexValue_hexDigits (count value : Nat) : hexValue (hexDigits count value) = some (value % 16 ^ count) := by
  induction count generalizing value with
  | zero => simp [hexDigits, hexValue, Nat.mod_one]
  | succ count ih =>
      rw [hexDigits_succ, hexValue_append_digit (ih (value / 16)) (Nat.mod_lt _ (by decide))]
      congr 1
      rw [Nat.pow_succ', Nat.mod_mul]
      omega

theorem mem_hexDigits {count value : Nat} {c : Char} (h : c ∈ hexDigits count value) :
    ∃ digit < 16, c = Nat.digitChar digit := by
  obtain ⟨i, -, rfl⟩ := List.mem_map.mp h
  exact ⟨_, Nat.mod_lt _ (by decide), rfl⟩

/-! ## The text of a UUID -/

/-- A text without the first character of a pattern has no occurrence of it. -/
theorem removeAll_of_not_mem {first : Char} {pattern text : List Char} (h : first ∉ text) :
    removeAll (first :: pattern) 0 text = text := by
  induction text with
  | nil => rfl
  | cons c text ih =>
      obtain ⟨hc, htext⟩ := List.ne_and_not_mem_of_not_mem_cons h
      unfold removeAll
      have hplain : (first :: pattern).isPrefixOf (c :: text) = false := by simp [List.isPrefixOf, hc]
      rw [hplain, if_neg Bool.false_ne_true, ih htext]

namespace Uuid

/-- The digits of a UUID, with a hyphen after each of the first four groups. -/
def grouped (digits : List Char) : List Char :=
  digits.take 8 ++ '-' :: ((digits.drop 8).take 4 ++ '-' :: ((digits.drop 12).take 4 ++
    '-' :: ((digits.drop 16).take 4 ++ '-' :: (digits.drop 20).take 12)))

theorem text_eq (uuid : Uuid) : uuid.text = String.ofList (grouped (hexDigits 32 uuid.toNat)) := by
  have hdigits : ((List.range 32).map fun i => Nat.digitChar ((uuid >>> (4 * (31 - i))).toNat % 16)) =
      hexDigits 32 uuid.toNat := by
    apply List.map_congr_left
    intro i _
    rw [BitVec.toNat_ushiftRight, Nat.shiftRight_eq_div_pow, show 32 - 1 - i = 31 - i from rfl, Nat.pow_mul]
  unfold Uuid.text
  dsimp only
  rw [hdigits]
  have hjoin : ∀ a b c d e : String,
      "-".intercalate [a, b, c, d, e] = a ++ "-" ++ b ++ "-" ++ c ++ "-" ++ d ++ "-" ++ e := fun _ _ _ _ _ => rfl
  rw [hjoin]
  apply String.toList_injective
  simp [grouped]

/-- The digits are what is left without the hyphens. -/
theorem filter_grouped {digits : List Char} (hlength : digits.length = 32) (hdigits : ∀ c ∈ digits, c ≠ '-') :
    (grouped digits).filter (· != '-') = digits := by
  have hkept : ∀ part : List Char, (∀ c ∈ part, c ∈ digits) → part.filter (· != '-') = part := by
    intro part hpart
    apply List.filter_eq_self.mpr
    intro c hc
    simpa using hdigits c (hpart c hc)
  have htake (start length : Nat) : ((digits.drop start).take length).filter (· != '-') = (digits.drop start).take length :=
    hkept _ fun c hc => List.mem_of_mem_drop (List.mem_of_mem_take hc)
  have hjoined : digits.take 8 ++ ((digits.drop 8).take 4 ++ ((digits.drop 12).take 4 ++
      ((digits.drop 16).take 4 ++ (digits.drop 20).take 12))) = digits := by
    have hlast : (digits.drop 20).take 12 = digits.drop 20 := List.take_of_length_le (by rw [List.length_drop]; omega)
    have hdrop (start length : Nat) : (digits.drop start).take length ++ digits.drop (start + length) =
        digits.drop start := by
      rw [← List.drop_drop, List.take_append_drop]
    rw [hlast, hdrop 16 4, hdrop 12 4, hdrop 8 4, List.take_append_drop]
  unfold grouped
  simp only [List.filter_append, List.filter_cons, bne_self_eq_false, Bool.false_eq_true, if_false, htake]
  rw [hkept (digits.take 8) fun c hc => List.mem_of_mem_take hc]
  exact hjoined

theorem mem_grouped {digits : List Char} {c : Char} (h : c ∈ grouped digits) : c = '-' ∨ c ∈ digits := by
  have htake (start length : Nat) : c ∈ (digits.drop start).take length → c ∈ digits :=
    fun hc => List.mem_of_mem_drop (List.mem_of_mem_take hc)
  simp only [grouped, List.mem_append, List.mem_cons] at h
  rcases h with h | h | h | h | h | h | h | h | h
  · exact .inr (List.mem_of_mem_take h)
  · exact .inl h
  · exact .inr (htake _ _ h)
  · exact .inl h
  · exact .inr (htake _ _ h)
  · exact .inl h
  · exact .inr (htake _ _ h)
  · exact .inl h
  · exact .inr (htake _ _ h)

/-- A UUID is read back from its text. -/
theorem parse_text (uuid : Uuid) : Uuid.parse uuid.text = some uuid := by
  have hcharacter : ∀ c ∈ grouped (hexDigits 32 uuid.toNat), c ≠ 'u' ∧ c.toNat ≠ 0x7b ∧ c.toNat ≠ 0x7d := by
    intro c hc
    rcases mem_grouped hc with rfl | hdigit
    · decide
    · obtain ⟨digit, hlt, rfl⟩ := mem_hexDigits hdigit
      obtain ⟨hu, -, hopen, hclose⟩ := digitChar_ne hlt
      exact ⟨hu, hopen, hclose⟩
  have hplain : 'u' ∉ grouped (hexDigits 32 uuid.toNat) := fun hmem => (hcharacter _ hmem).1 rfl
  have hlength : (hexDigits 32 uuid.toNat).length = 32 := by simp [hexDigits]
  have hhyphen : ∀ c ∈ hexDigits 32 uuid.toNat, c ≠ '-' := by
    intro c hc
    obtain ⟨digit, hlt, rfl⟩ := mem_hexDigits hc
    exact (digitChar_ne hlt).2.1
  have hurn : removeAll "urn:".toList 0 (grouped (hexDigits 32 uuid.toNat)) = grouped (hexDigits 32 uuid.toNat) :=
    removeAll_of_not_mem hplain
  have huuid : removeAll "uuid:".toList 0 (grouped (hexDigits 32 uuid.toNat)) = grouped (hexDigits 32 uuid.toNat) :=
    removeAll_of_not_mem hplain
  have htext : uuid.text.toList = grouped (hexDigits 32 uuid.toNat) := by rw [text_eq, String.toList_ofList]
  unfold Uuid.parse
  rw [htext, hurn, huuid]
  dsimp only
  rw [List.dropWhile_eq_self_iff.mpr, List.rdropWhile_eq_self_iff.mpr, filter_grouped hlength hhyphen, if_pos hlength,
    hexValue_hexDigits]
  · have hlt : uuid.toNat < 16 ^ 32 := uuid.isLt
    show some (BitVec.ofNat 128 (uuid.toNat % 16 ^ 32)) = some uuid
    rw [Nat.mod_eq_of_lt hlt, BitVec.ofNat_toNat, BitVec.setWidth_eq]
  · intro hne
    obtain ⟨-, hopen, hclose⟩ := hcharacter _ (List.getLast_mem hne)
    simp [hopen, hclose]
  · intro hpos
    obtain ⟨-, hopen, hclose⟩ := hcharacter _ (List.getElem_mem hpos)
    simp [hopen, hclose]

end Uuid

end VoiceAssistants
