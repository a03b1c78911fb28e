import VoiceAssistants.Sql.Changes

/-!
# Upserts that merge

`mergeUpsert` is `INSERT … ON CONFLICT (key) DO UPDATE SET …` on a table that has a primary key besides.  What the new row
and the one that it meets make together is `merge`, which can raise as the insert can.
-/

namespace VoiceAssistants
namespace Sql

variable {R K P : Type} [DecidableEq K] [DecidableEq P]

/-- Insert a row, or change the row that has its key; `none` is an exception. -/
def mergeUpsert (primary : R → P) (key : R → K) (row : R) (merge : R → Option R) (table : List R) : Option (List R) :=
  match selectKey key (key row) table with
  | none => insertAbsent primary row table
  | some old => (merge old).map fun merged => upsert key merged table

/-- What is written is the new row, or what it makes with the row that was there. -/
theorem mergeUpsert_eq_some {primary : R → P} {key : R → K} {row : R} {merge : R → Option R} {table table' : List R}
    (h : mergeUpsert primary key row merge table = some table') :
    ∃ written, table' = upsert key written table ∧
      ((selectKey key (key row) table = none ∧ written = row) ∨
        ∃ old, selectKey key (key row) table = some old ∧ merge old = some written) := by
  unfold mergeUpsert at h
  split at h
  · rename_i hnone
    obtain ⟨-, rfl⟩ := insertAbsent_eq_some h
    refine ⟨row, ?_, .inl ⟨hnone, rfl⟩⟩
    rw [upsert, hnone]
    rfl
  · rename_i old hold
    obtain ⟨merged, hmerged, rfl⟩ := Option.map_eq_some_iff.mp h
    exact ⟨merged, rfl, .inr ⟨old, hold, hmerged⟩⟩

end Sql
end VoiceAssistants
