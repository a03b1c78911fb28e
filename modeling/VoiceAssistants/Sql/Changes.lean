import VoiceAssistants.Sql.Table
import Mathlib.Data.List.Induction

/-!
# Logs of changes to a keyed table

A change removes the row of a key or puts a row in its place (`INSERT … ON CONFLICT (key) DO UPDATE`).  `fold` applies a
log of changes in order.  `selectKey_fold` says what comes out of it: of every key the last change counts, and keys
without a change keep their rows.
-/

namespace VoiceAssistants
namespace Sql

/-- Put a row in the place of the row of its key. -/
def upsert {R K : Type} [DecidableEq K] (key : R → K) (row : R) (table : List R) : List R :=
  if (selectKey key (key row) table).isSome then updateWhere (fun other => key other = key row) (fun _ => row) table
  else table ++ [row]

/-- A change to the row of one key. -/
inductive Change (R K : Type)
  | remove (key : K)
  | put (row : R)
  deriving DecidableEq, Repr

namespace Change

variable {R K : Type} [DecidableEq K]

/-- The key that is changed. -/
def subject (key : R → K) : Change R K → K
  | .remove k => k
  | .put row => key row

/-- The row that the key has afterwards. -/
def result : Change R K → Option R
  | .remove _ => none
  | .put row => some row

def apply (key : R → K) (table : List R) : Change R K → List R
  | .remove k => table.filter fun row => key row ≠ k
  | .put row => upsert key row table

/-- A log, oldest change first. -/
def fold (key : R → K) (changes : List (Change R K)) (table : List R) : List R :=
  changes.foldl (apply key) table

variable {key : R → K} {table : List R} {k : K}

@[simp] theorem fold_nil : fold key [] table = table := rfl

theorem fold_append (changes changes' : List (Change R K)) :
    fold key (changes ++ changes') table = fold key changes' (fold key changes table) :=
  List.foldl_append

theorem keyed_upsert (hkeyed : Keyed key table) (row : R) : Keyed key (upsert key row table) := by
  unfold upsert
  by_cases hfound : (selectKey key (key row) table).isSome
  · rw [if_pos hfound]
    unfold Keyed at *
    have hkeys : (updateWhere (fun other => key other = key row) (fun _ => row) table).map key = table.map key := by
      unfold updateWhere
      rw [List.map_map]
      apply List.map_congr_left
      intro other _
      by_cases hsame : key other = key row
      · simp [hsame]
      · simp [hsame]
    rw [hkeys]
    exact hkeyed
  · rw [if_neg hfound]
    exact keyed_append hkeyed (selectKey_eq_none.mp (Option.not_isSome_iff_eq_none.mp hfound))

theorem keyed_apply (hkeyed : Keyed key table) (change : Change R K) : Keyed key (change.apply key table) := by
  cases change with
  | remove k => exact (List.filter_sublist.map key).nodup hkeyed
  | put row => exact keyed_upsert hkeyed row

theorem keyed_fold (hkeyed : Keyed key table) (changes : List (Change R K)) : Keyed key (fold key changes table) := by
  induction changes generalizing table with
  | nil => exact hkeyed
  | cons change changes ih => exact ih (keyed_apply hkeyed change)

theorem selectKey_upsert_self (row : R) : selectKey key (key row) (upsert key row table) = some row := by
  unfold upsert
  cases hfound : selectKey key (key row) table with
  | none =>
      have hnone : table.find? (fun other => key other = key row) = none := hfound
      simp [selectKey, List.find?_append, hnone]
  | some found =>
      simp only [Option.isSome_some, if_true]
      induction table with
      | nil => cases hfound
      | cons first rest ih =>
          unfold selectKey updateWhere at *
          by_cases hfirst : key first = key row
          · simp [hfirst]
          · simp only [List.map_cons, List.find?_cons, hfirst, decide_false, Bool.false_eq_true, if_false] at *
            exact ih hfound

theorem selectKey_upsert_ne {row : R} (hne : key row ≠ k) : selectKey key k (upsert key row table) = selectKey key k table := by
  unfold upsert
  by_cases hfound : (selectKey key (key row) table).isSome
  · rw [if_pos hfound]
    clear hfound
    induction table with
    | nil => rfl
    | cons first rest ih =>
        unfold selectKey updateWhere at *
        rw [List.map_cons, List.find?_cons, List.find?_cons, ih]
        by_cases hfirst : key first = key row
        · simp [hfirst, hne]
        · simp [hfirst]
  · rw [if_neg hfound, selectKey, List.find?_append]
    simp [selectKey, hne]

/-- A change gives its key its row, and leaves the rows of the other keys. -/
theorem selectKey_apply (change : Change R K) : selectKey key k (change.apply key table) =
    if change.subject key = k then change.result else selectKey key k table := by
  cases change with
  | remove k' =>
      show (table.filter fun row => key row ≠ k').find? (fun row => key row = k) = _
      rw [List.find?_filter]
      by_cases heq : k' = k
      · subst heq
        simp [subject, result]
      · have hsame : (fun row => decide (decide (key row ≠ k') = true ∧ decide (key row = k) = true)) =
            fun row => decide (key row = k) := by
          funext row
          by_cases hrow : key row = k
          · simp [hrow, Ne.symm heq]
          · simp [hrow]
        simp only [subject, heq, if_false, selectKey]
        rw [hsame]
  | put row =>
      show selectKey key k (upsert key row table) = _
      by_cases heq : key row = k
      · subst heq
        rw [selectKey_upsert_self]
        exact (if_pos rfl).symm
      · rw [selectKey_upsert_ne heq]
        exact (if_neg heq).symm

/-- Of every key the last change counts. -/
theorem selectKey_fold (changes : List (Change R K)) : selectKey key k (fold key changes table) =
    (changes.reverse.find? fun change => change.subject key = k).elim (selectKey key k table) result := by
  induction changes using List.reverseRecOn with
  | nil => rfl
  | append_singleton changes change ih =>
      rw [fold_append, List.reverse_append, List.reverse_singleton, List.singleton_append, List.find?_cons]
      show selectKey key k (change.apply key (fold key changes table)) = _
      rw [selectKey_apply, ih]
      by_cases heq : change.subject key = k
      · simp [heq]
      · simp [heq]

/-- A row after a change was there before, or the change has put it there. -/
theorem mem_of_mem_apply {change : Change R K} {row : R} (h : row ∈ change.apply key table) :
    row ∈ table ∨ change = .put row := by
  cases change with
  | remove k => exact .inl (List.mem_of_mem_filter h)
  | put put =>
      have hupsert : row ∈ upsert key put table := h
      unfold upsert at hupsert
      by_cases hfound : (selectKey key (key put) table).isSome
      · rw [if_pos hfound] at hupsert
        obtain ⟨other, hother, ⟨-, rfl⟩ | ⟨-, rfl⟩⟩ := mem_updateWhere hupsert
        · exact .inr rfl
        · exact .inl hother
      · rw [if_neg hfound] at hupsert
        rcases List.mem_append.mp hupsert with hrow | hrow
        · exact .inl hrow
        · rw [List.mem_singleton.mp hrow]
          exact .inr rfl

theorem mem_of_mem_fold {changes : List (Change R K)} {row : R} (h : row ∈ fold key changes table) :
    row ∈ table ∨ .put row ∈ changes := by
  induction changes generalizing table with
  | nil => exact .inl h
  | cons change changes ih =>
      rcases ih h with hrow | hput
      · rcases mem_of_mem_apply hrow with hrow | rfl
        · exact .inl hrow
        · exact .inr List.mem_cons_self
      · exact .inr (List.mem_cons_of_mem _ hput)

/-- Changes of different keys put their rows into an empty table. -/
theorem mem_fold_nil {changes : List (Change R K)} (hdistinct : (changes.map (subject key)).Nodup) {row : R} :
    row ∈ fold key changes [] ↔ .put row ∈ changes := by
  constructor
  · intro h
    rcases mem_of_mem_fold h with hrow | hput
    · cases hrow
    · exact hput
  · intro hput
    have hfound : selectKey key (key row) (fold key changes []) = _ := selectKey_fold changes
    cases hlast : changes.reverse.find? fun change => change.subject key = key row with
    | none =>
        have hnone := List.find?_eq_none.mp hlast _ (List.mem_reverse.mpr hput)
        simp [subject] at hnone
    | some change =>
        have hmem : change ∈ changes := List.mem_reverse.mp (List.mem_of_find?_eq_some hlast)
        have hsubject : change.subject key = key row := by simpa using List.find?_some hlast
        -- the key has one change only
        obtain rfl : change = .put row := List.inj_on_of_nodup_map hdistinct hmem hput hsubject
        rw [hlast] at hfound
        exact selectKey_mem hfound

end Change

end Sql
end VoiceAssistants
