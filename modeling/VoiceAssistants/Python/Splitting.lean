import VoiceAssistants.Text

/-!
# Splitting a text

`splitWhere separator text` is `re.split` for a pattern that never matches the empty text: `separator` says how long the
match is that starts at a position, 0 for none, and sees the characters before the position (the nearest first) and from it
on.  `splitlines` and `strip` are the methods of `str`.

What these functions cut out of a text is contiguous in it.  Nothing is claimed about how the pieces join.
-/

namespace VoiceAssistants
namespace Python

/-- `text.strip(chars)` for the characters that satisfy `outer`. -/
def stripWhere (outer : Char → Bool) (text : List Char) : List Char :=
  (text.dropWhile outer).rdropWhile outer

/-- The pieces from here on.  `before` are the characters before, `piece` those of the current piece, both in reverse, and
`skip` counts the characters of a separator that are still to be left out. -/
def splitFrom (separator : List Char → List Char → Nat) :
    (before piece : List Char) → (skip : Nat) → List Char → List (List Char)
  | _, piece, _, [] => [piece.reverse]
  | before, piece, skip + 1, c :: rest => splitFrom separator (c :: before) piece skip rest
  | before, piece, 0, c :: rest =>
      match separator before (c :: rest) with
      | 0 => splitFrom separator (c :: before) (c :: piece) 0 rest
      | length + 1 => piece.reverse :: splitFrom separator (c :: before) [] length rest

/-- `re.split(pattern, text)` -/
def splitWhere (separator : List Char → List Char → Nat) (text : List Char) : List (List Char) :=
  splitFrom separator [] [] 0 text

/-- The line boundaries of `str.splitlines`; `\r\n` is one. -/
def lineBreak (text : List Char) : Nat :=
  match text with
  | '\r' :: '\n' :: _ => 2
  | c :: _ =>
      let code := c.toNat
      if (0x0a ≤ code && code ≤ 0x0d) || (0x1c ≤ code && code ≤ 0x1e) || code == 0x85 || code == 0x2028 ||
        code == 0x2029 then 1 else 0
  | [] => 0

/-- `text.splitlines()`: there is no empty line after a last boundary. -/
def splitlines (text : List Char) : List (List Char) :=
  let lines := splitWhere (fun _ rest => lineBreak rest) text
  if lines.getLast? = some [] then lines.dropLast else lines

theorem stripWhere_infix (outer : Char → Bool) (text : List Char) : stripWhere outer text <:+: text :=
  ((List.rdropWhile_prefix outer _).isInfix).trans (List.dropWhile_suffix outer).isInfix

/-- Every piece is contiguous in the text that has been read and is still to be read: the current one is what has been read
last, and it is empty inside of a separator. -/
theorem infix_of_mem_splitFrom {separator : List Char → List Char → Nat} {before piece text cut : List Char} {skip : Nat}
    (hpiece : piece = [] ∨ (skip = 0 ∧ piece.reverse <:+ before.reverse))
    (h : cut ∈ splitFrom separator before piece skip text) : cut <:+: before.reverse ++ text := by
  have hcurrent : piece.reverse <:+: before.reverse := by
    rcases hpiece with rfl | ⟨-, hsuffix⟩
    · exact List.nil_infix
    · exact hsuffix.isInfix
  induction text generalizing before piece skip with
  | nil =>
      simp only [splitFrom, List.mem_singleton] at h
      rw [h, List.append_nil]
      exact hcurrent
  | cons c rest ih =>
      have hread : before.reverse ++ c :: rest = (c :: before).reverse ++ rest := by
        rw [List.reverse_cons, List.append_assoc, List.singleton_append]
      cases skip with
      | succ skip =>
          have hempty : piece = [] := by
            rcases hpiece with hnil | ⟨hzero, -⟩
            · exact hnil
            · cases hzero
          rw [hread]
          apply ih (.inl hempty) h
          rw [hempty]
          exact List.nil_infix
      | zero =>
          have hsuffix : piece.reverse <:+ before.reverse := by
            rcases hpiece with rfl | ⟨-, hsuffix⟩
            · exact List.nil_suffix
            · exact hsuffix
          simp only [splitFrom] at h
          split at h
          · -- the character is one more of the current piece
            have hgrown : (c :: piece).reverse <:+ (c :: before).reverse := by
              obtain ⟨front, hfront⟩ := hsuffix
              refine ⟨front, ?_⟩
              rw [List.reverse_cons, List.reverse_cons, ← hfront, List.append_assoc]
            rw [hread]
            exact ih (.inr ⟨rfl, hgrown⟩) h hgrown.isInfix
          · rcases List.mem_cons.mp h with rfl | hmem
            · exact hcurrent.trans (List.prefix_append _ _).isInfix
            · rw [hread]
              exact ih (.inl rfl) hmem List.nil_infix

theorem infix_of_mem_splitWhere {separator : List Char → List Char → Nat} {text cut : List Char}
    (h : cut ∈ splitWhere separator text) : cut <:+: text :=
  infix_of_mem_splitFrom (.inl rfl) h

theorem infix_of_mem_splitlines {text line : List Char} (h : line ∈ splitlines text) : line <:+: text := by
  unfold splitlines at h
  dsimp only at h
  split at h
  · exact infix_of_mem_splitWhere ((List.dropLast_sublist _).subset h)
  · exact infix_of_mem_splitWhere h

example : (splitlines "a\r\n\nb\n".toList).map String.ofList = ["a", "", "b"] := by
  decide +kernel

end Python
end VoiceAssistants
