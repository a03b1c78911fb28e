import Mathlib.Data.List.Induction
import Mathlib.Data.List.Nodup

/-!
# Maps that remember the order of insertion

A JavaScript `Map` is the list of its entries in the order in which their keys were inserted; no key occurs
twice.  Setting a key that is there keeps its place, deleting one that is absent changes nothing.

The lemmas say what a lookup finds after each operation; `mem_entries` turns iteration into lookup.
-/

namespace VoiceAssistants
namespace Collections

/-- A map from `K` to `V` with its entries in insertion order. -/
structure OrderedMap (K V : Type) where
  entries : List (K × V)
  nodup : (entries.map Prod.fst).Nodup

namespace OrderedMap

variable {K V : Type} [DecidableEq K]

instance [DecidableEq V] : DecidableEq (OrderedMap K V) := fun m m' =>
  decidable_of_iff (m.entries = m'.entries) (by cases m; cases m'; simp)

/-- `new Map()`. -/
def empty : OrderedMap K V :=
  ⟨[], List.nodup_nil⟩

/-- `map.get(key)`. -/
def get (m : OrderedMap K V) (key : K) : Option V :=
  (m.entries.find? fun entry => entry.1 = key).map Prod.snd

/-- The keys when one entry's value is replaced. -/
theorem keys_replace (entries : List (K × V)) (key : K) (value : V) :
    (entries.map fun entry => if entry.1 = key then (key, value) else entry).map Prod.fst =
      entries.map Prod.fst := by
  rw [List.map_map]
  apply List.map_congr_left
  intro entry _
  by_cases h : entry.1 = key
  · simp [h]
  · simp [h]

/-- `map.set(key, value)`. -/
def set (m : OrderedMap K V) (key : K) (value : V) : OrderedMap K V :=
  if h : key ∈ m.entries.map Prod.fst then
    ⟨m.entries.map fun entry => if entry.1 = key then (key, value) else entry,
      (keys_replace m.entries key value).symm ▸ m.nodup⟩
  else
    ⟨m.entries ++ [(key, value)], by
      rw [List.map_append, List.nodup_append]
      refine ⟨m.nodup, by simp, ?_⟩
      intro a ha b hb
      obtain rfl : b = key := by simpa using hb
      rintro rfl
      exact h ha⟩

/-- `map.delete(key)`. -/
def delete (m : OrderedMap K V) (key : K) : OrderedMap K V :=
  ⟨m.entries.filter fun entry => entry.1 ≠ key, (List.filter_sublist.map Prod.fst).nodup m.nodup⟩

/-- The map after one `set` for each pair in turn. -/
def ofPairs (pairs : List (K × V)) : OrderedMap K V :=
  pairs.foldl (fun m pair => m.set pair.1 pair.2) empty

variable {m : OrderedMap K V} {key key' : K} {value value' : V}

/-- Iterating over the entries and looking the keys up is the same. -/
theorem mem_entries : (key, value) ∈ m.entries ↔ m.get key = some value := by
  unfold get
  constructor
  · intro hmem
    cases hfind : m.entries.find? fun entry => entry.1 = key with
    | none => simpa using List.find?_eq_none.mp hfind _ hmem
    | some entry =>
        have hentry := List.mem_of_find?_eq_some hfind
        have hkey : entry.1 = key := by simpa using List.find?_some hfind
        -- both entries have the same key
        have heq : entry = (key, value) := List.inj_on_of_nodup_map m.nodup hentry hmem hkey
        simp [heq]
  · intro hget
    obtain ⟨entry, hfind, hvalue⟩ := Option.map_eq_some_iff.mp hget
    have hkey : entry.1 = key := by simpa using List.find?_some hfind
    have heq : entry = (key, value) := Prod.ext hkey hvalue
    exact heq ▸ List.mem_of_find?_eq_some hfind

theorem get_eq_none : m.get key = none ↔ ∀ entry ∈ m.entries, entry.1 ≠ key := by
  simp [get]

@[simp] theorem get_empty : (empty : OrderedMap K V).get key = none := rfl

@[simp] theorem get_set_self : (m.set key value).get key = some value := by
  apply mem_entries.mp
  unfold set
  split
  · rename_i hmem
    obtain ⟨entry, hentry, hkey⟩ := List.mem_map.mp hmem
    exact List.mem_map.mpr ⟨entry, hentry, by simp [hkey]⟩
  · simp

/-- Setting one key leaves the others. -/
theorem get_set_ne (h : key' ≠ key) : (m.set key value).get key' = m.get key' := by
  apply Option.ext
  intro other
  rw [← mem_entries, ← mem_entries]
  unfold set
  split
  · constructor
    · intro hmem
      obtain ⟨entry, hentry, heq⟩ := List.mem_map.mp hmem
      by_cases hkey : entry.1 = key
      · rw [if_pos hkey] at heq
        exact absurd (congrArg Prod.fst heq).symm h
      · rw [if_neg hkey] at heq
        exact heq ▸ hentry
    · intro hmem
      exact List.mem_map.mpr ⟨_, hmem, if_neg h⟩
  · constructor
    · intro hmem
      rcases List.mem_append.mp hmem with hold | hnew
      · exact hold
      · exact absurd (congrArg Prod.fst (List.mem_singleton.mp hnew)) h
    · intro hmem
      exact List.mem_append_left _ hmem

theorem get_set : (m.set key value).get key' = if key' = key then some value else m.get key' := by
  by_cases h : key' = key
  · subst h
    simp
  · rw [if_neg h, get_set_ne h]

theorem mem_of_mem_set {entry : K × V} (h : entry ∈ (m.set key value).entries) :
    entry = (key, value) ∨ entry ∈ m.entries := by
  have hget := mem_entries.mp h
  rw [get_set] at hget
  split at hget
  · rename_i hkey
    obtain rfl := Option.some.inj hget
    exact .inl (Prod.ext hkey rfl)
  · exact .inr (mem_entries.mpr hget)

/-- Setting a key adds at most one entry. -/
theorem length_entries_set_le : (m.set key value).entries.length ≤ m.entries.length + 1 := by
  unfold set
  split
  · rw [List.length_map]
    omega
  · rw [List.length_append]
    exact Nat.le_refl _

theorem mem_of_mem_delete {entry : K × V} (h : entry ∈ (m.delete key).entries) : entry ∈ m.entries :=
  (List.mem_filter.mp h).1

@[simp] theorem get_delete_self : (m.delete key).get key = none := by
  simp [get_eq_none, delete]

/-- Deleting one key leaves the others. -/
theorem get_delete_ne (h : key' ≠ key) : (m.delete key).get key' = m.get key' := by
  apply Option.ext
  intro other
  rw [← mem_entries, ← mem_entries]
  simp [delete, h]

theorem get_delete : (m.delete key).get key' = if key' = key then none else m.get key' := by
  by_cases h : key' = key
  · subst h
    simp
  · rw [if_neg h, get_delete_ne h]

/-- The entries of a map come from the pairs it is made of. -/
theorem mem_of_mem_ofPairs {pairs : List (K × V)} {entry : K × V} (h : entry ∈ (ofPairs pairs).entries) :
    entry ∈ pairs := by
  induction pairs using List.reverseRecOn with
  | nil => cases h
  | append_singleton pairs pair ih =>
      rw [ofPairs, List.foldl_append, List.foldl_cons, List.foldl_nil] at h
      rcases mem_of_mem_set h with hset | hbefore
      · rw [hset]
        exact List.mem_append_right _ List.mem_cons_self
      · exact List.mem_append_left _ (ih hbefore)

/-- The last pair's key is in the map. -/
theorem ofPairs_ne_nil {pairs : List (K × V)} (hne : pairs ≠ []) : (ofPairs pairs).entries ≠ [] := by
  obtain ⟨before, pair, rfl⟩ := List.eq_nil_or_concat' pairs |>.resolve_left hne
  intro hnil
  have hget : (ofPairs (before ++ [pair])).get pair.1 = some pair.2 := by
    rw [ofPairs, List.foldl_append]
    exact get_set_self
  rw [get, hnil] at hget
  cases hget

end OrderedMap

end Collections
end VoiceAssistants
