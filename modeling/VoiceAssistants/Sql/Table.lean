import Mathlib.Data.List.Nodup

/-!
# Tables with a primary key

A table is the list of its rows in insertion order.  `selectKey` is `SELECT … WHERE key = k`,
`insertAbsent` is `INSERT … ON CONFLICT (key) DO NOTHING` and `updateWhere` is `UPDATE … SET … WHERE …`; the
number of rows an update reports is `affected`.

`Keyed` is the primary-key constraint.  The lemmas say that inserts and key-preserving updates keep it, what
a row looks like afterwards, and that a key-bound update reports at most one row.
-/

namespace VoiceAssistants
namespace Sql

variable {R K : Type} [DecidableEq K]

/-- No two rows have the same key. -/
def Keyed (key : R → K) (table : List R) : Prop :=
  (table.map key).Nodup

/-- The row with a given key. -/
def selectKey (key : R → K) (k : K) (table : List R) : Option R :=
  table.find? fun row => key row = k

/-- Insert a row unless its key is taken; `none` is `DO NOTHING`. -/
def insertAbsent (key : R → K) (row : R) (table : List R) : Option (List R) :=
  match selectKey key (key row) table with
  | some _ => none
  | none => some (table ++ [row])

/-- Change the rows that satisfy the condition. -/
def updateWhere (condition : R → Bool) (change : R → R) (table : List R) : List R :=
  table.map fun row => if condition row then change row else row

/-- The number of rows an update changes. -/
def affected (condition : R → Bool) (table : List R) : Nat :=
  table.countP condition

variable {key : R → K} {table : List R} {row : R} {k : K}

theorem selectKey_mem (h : selectKey key k table = some row) : row ∈ table :=
  List.mem_of_find?_eq_some h

theorem selectKey_key (h : selectKey key k table = some row) : key row = k := by
  simpa using List.find?_some h

theorem selectKey_eq_none : selectKey key k table = none ↔ ∀ row ∈ table, key row ≠ k := by
  simp [selectKey]

/-- In a keyed table the key finds its row. -/
theorem selectKey_of_mem (hkeyed : Keyed key table) (hmem : row ∈ table) :
    selectKey key (key row) table = some row := by
  induction table with
  | nil => simp at hmem
  | cons first rest ih =>
      obtain ⟨hfirst, hrest⟩ := List.nodup_cons.mp hkeyed
      rcases List.mem_cons.mp hmem with rfl | hmem
      · simp [selectKey]
      · have hne : key first ≠ key row := by
          intro heq
          exact hfirst (heq ▸ List.mem_map_of_mem hmem)
        simpa [selectKey, hne] using ih hrest hmem

theorem Keyed.eq_of_key (hkeyed : Keyed key table) {row' : R} (h : row ∈ table) (h' : row' ∈ table)
    (heq : key row = key row') : row = row' := by
  have hfound := selectKey_of_mem hkeyed h
  rw [heq, selectKey_of_mem hkeyed h'] at hfound
  exact (Option.some.inj hfound).symm

/-- Inversion of `insertAbsent`. -/
theorem insertAbsent_eq_some {table' : List R} (h : insertAbsent key row table = some table') :
    (∀ other ∈ table, key other ≠ key row) ∧ table' = table ++ [row] := by
  unfold insertAbsent at h
  split at h
  · cases h
  · rename_i hnone
    exact ⟨selectKey_eq_none.mp hnone, (Option.some.inj h).symm⟩

theorem insertAbsent_eq_none (h : insertAbsent key row table = none) :
    ∃ other, selectKey key (key row) table = some other := by
  unfold insertAbsent at h
  split at h
  · rename_i other hsome
    exact ⟨other, hsome⟩
  · cases h

omit [DecidableEq K] in
theorem keyed_append (hkeyed : Keyed key table) (hnew : ∀ other ∈ table, key other ≠ key row) :
    Keyed key (table ++ [row]) := by
  unfold Keyed at *
  rw [List.map_append, List.nodup_append]
  refine ⟨hkeyed, by simp, ?_⟩
  intro a ha b hb
  obtain ⟨other, hother, rfl⟩ := List.mem_map.mp ha
  have hb' : b = key row := by simpa using hb
  rw [hb']
  exact hnew other hother

section Update

variable {condition : R → Bool} {change : R → R}

/-- An update that keeps a column keeps the list of its values. -/
theorem map_updateWhere {β : Type} {column : R → β} (hchange : ∀ row, column (change row) = column row) :
    (updateWhere condition change table).map column = table.map column := by
  unfold updateWhere
  rw [List.map_map]
  refine List.map_congr_left fun row _ => ?_
  by_cases hc : condition row = true
  · simp [hc, hchange]
  · simp [hc]

omit [DecidableEq K] in
theorem keyed_updateWhere (hchange : ∀ row, key (change row) = key row) (hkeyed : Keyed key table) :
    Keyed key (updateWhere condition change table) := by
  unfold Keyed at *
  rwa [map_updateWhere hchange]

/-- A row after an update is the change of a row before it, or an untouched one. -/
theorem mem_updateWhere {row' : R} (h : row' ∈ updateWhere condition change table) :
    ∃ row ∈ table, (condition row = true ∧ row' = change row) ∨ (condition row = false ∧ row' = row) := by
  obtain ⟨row, hmem, rfl⟩ := List.mem_map.mp h
  refine ⟨row, hmem, ?_⟩
  by_cases hc : condition row = true
  · exact .inl ⟨hc, by simp [hc]⟩
  · exact .inr ⟨by simpa using hc, by simp [hc]⟩

omit [DecidableEq K] in
/-- A row that satisfies the condition is changed. -/
theorem change_mem_updateWhere (h : row ∈ table) (hc : condition row = true) :
    change row ∈ updateWhere condition change table := by
  have hmem : (if condition row then change row else row) ∈ updateWhere condition change table :=
    List.mem_map_of_mem h
  rwa [if_pos hc] at hmem

omit [DecidableEq K] in
/-- An update whose condition no row satisfies does nothing. -/
theorem updateWhere_eq_self (h : ∀ row ∈ table, condition row = false) :
    updateWhere condition change table = table := by
  have hsame : ∀ row ∈ table, (if condition row then change row else row) = id row := by
    intro row hrow
    simp [h row hrow]
  exact (List.map_congr_left hsame).trans (List.map_id table)

omit [DecidableEq K] in
/-- Every row is still there after an update that keeps a column, as far as the column shows. -/
theorem exists_mem_updateWhere {β : Type} {column : R → β} (hchange : ∀ row, column (change row) = column row)
    (h : row ∈ table) : ∃ row' ∈ updateWhere condition change table, column row' = column row := by
  have hmem : (if condition row then change row else row) ∈ updateWhere condition change table :=
    List.mem_map_of_mem h
  refine ⟨_, hmem, ?_⟩
  by_cases hc : condition row = true
  · simp [hc, hchange]
  · simp [hc]

/-- The row with a given key after an update. -/
theorem selectKey_updateWhere (hchange : ∀ row, key (change row) = key row) :
    selectKey key k (updateWhere condition change table) =
      (selectKey key k table).map fun row => if condition row then change row else row := by
  induction table with
  | nil => rfl
  | cons first rest ih =>
      have hkey : key (if condition first then change first else first) = key first := by
        by_cases hc : condition first = true
        · simp [hc, hchange]
        · simp [hc]
      by_cases hk : key first = k
      · simp [selectKey, updateWhere, hk, hkey]
      · simpa [selectKey, updateWhere, hk, hkey] using ih

omit [DecidableEq K] in
/-- An update bound to one key reports at most one row. -/
theorem affected_le_one (hkeyed : Keyed key table) (hbound : ∀ row, condition row = true → key row = k) :
    affected condition table ≤ 1 := by
  induction table with
  | nil => simp [affected]
  | cons first rest ih =>
      obtain ⟨hfirst, hrest⟩ := List.nodup_cons.mp hkeyed
      by_cases hc : condition first = true
      · have hnone : rest.countP condition = 0 := by
          rw [List.countP_eq_zero]
          intro row hmem hrow
          refine hfirst ?_
          rw [hbound first hc, ← hbound row hrow]
          exact List.mem_map_of_mem hmem
        simp [affected, hc, hnone]
      · simpa [affected, hc] using ih hrest

/-- An update that reports a row changed one that satisfied the condition. -/
theorem exists_of_affected (h : affected condition table ≠ 0) : ∃ row ∈ table, condition row = true := by
  simpa [affected] using h

end Update

end Sql
end VoiceAssistants
