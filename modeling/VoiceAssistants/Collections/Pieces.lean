import Mathlib.Data.List.Basic

/-!
# Cutting a list into pieces of one length

`wholePieces n xs` are the pieces of `n` elements that fit into `xs`, in order, and `remainder n xs` is what they leave.
Nothing is lost, the pieces have the length `n`, and what is left is shorter.
-/

namespace VoiceAssistants
namespace Collections

variable {α : Type}

/-- The first `count` pieces of `n` elements. -/
def pieces (n count : Nat) (xs : List α) : List (List α) :=
  (List.range count).map fun i => (xs.drop (i * n)).take n

/-- All whole pieces of `n` elements. -/
def wholePieces (n : Nat) (xs : List α) : List (List α) :=
  pieces n (xs.length / n) xs

/-- What the whole pieces leave. -/
def remainder (n : Nat) (xs : List α) : List α :=
  xs.drop (xs.length / n * n)

variable {n count : Nat} {xs piece : List α}

/-- Pieces joined again are a prefix. -/
theorem flatten_pieces : (pieces n count xs).flatten = xs.take (count * n) := by
  unfold pieces
  induction count with
  | zero => simp
  | succ count ih =>
      rw [List.range_succ, List.map_append, List.flatten_append, ih, Nat.succ_mul, List.take_add]
      simp

/-- Nothing is lost. -/
theorem flatten_wholePieces_append_remainder : (wholePieces n xs).flatten ++ remainder n xs = xs := by
  rw [wholePieces, flatten_pieces, remainder, List.take_append_drop]

theorem length_of_mem_wholePieces (h : piece ∈ wholePieces n xs) : piece.length = n := by
  obtain ⟨i, hi, rfl⟩ := List.mem_map.mp h
  -- the piece ends before the list does
  have hcount : i + 1 ≤ xs.length / n := List.mem_range.mp hi
  have hfits : i * n + n ≤ xs.length := by
    calc i * n + n = (i + 1) * n := by rw [Nat.succ_mul]
      _ ≤ xs.length / n * n := Nat.mul_le_mul_right n hcount
      _ ≤ xs.length := Nat.div_mul_le_self _ _
  simp only [List.length_take, List.length_drop]
  omega

theorem length_remainder_eq : (remainder n xs).length = xs.length % n := by
  have hdiv : xs.length / n * n + xs.length % n = xs.length := Nat.div_add_mod' _ _
  simp only [remainder, List.length_drop]
  omega

theorem length_remainder (hn : 0 < n) : (remainder n xs).length < n := by
  rw [length_remainder_eq]
  exact Nat.mod_lt _ hn

/-- Pieces of `n` elements and a shorter rest are found again in what they are joined to. -/
theorem eq_of_flatten_append {frames frames' : List (List α)} {rest rest' : List α}
    (hframes : ∀ piece ∈ frames, piece.length = n) (hframes' : ∀ piece ∈ frames', piece.length = n)
    (hrest : rest.length < n) (hrest' : rest'.length < n)
    (hjoined : frames.flatten ++ rest = frames'.flatten ++ rest') : frames = frames' ∧ rest = rest' := by
  induction frames generalizing frames' with
  | nil =>
      cases frames' with
      | nil => exact ⟨rfl, hjoined⟩
      | cons piece frames' =>
          -- the rest on the left would hold a whole piece
          have hpiece : piece.length = n := hframes' piece List.mem_cons_self
          have hlength : rest.length = (piece :: frames').flatten.length + rest'.length := by
            simpa [Nat.add_assoc] using congrArg List.length hjoined
          rw [List.flatten_cons, List.length_append] at hlength
          omega
  | cons piece frames ih =>
      have hpiece : piece.length = n := hframes piece List.mem_cons_self
      cases frames' with
      | nil =>
          have hlength : (piece :: frames).flatten.length + rest.length = rest'.length := by
            simpa [Nat.add_assoc] using congrArg List.length hjoined
          rw [List.flatten_cons, List.length_append] at hlength
          omega
      | cons piece' frames' =>
          have hpiece' : piece'.length = n := hframes' piece' List.mem_cons_self
          rw [List.flatten_cons, List.flatten_cons, List.append_assoc, List.append_assoc] at hjoined
          obtain ⟨rfl, htails⟩ := List.append_inj hjoined (hpiece.trans hpiece'.symm)
          obtain ⟨rfl, hrests⟩ := ih (fun p hp => hframes p (List.mem_cons_of_mem _ hp))
            (fun p hp => hframes' p (List.mem_cons_of_mem _ hp)) htails
          exact ⟨rfl, hrests⟩

end Collections
end VoiceAssistants
