import Mathlib.Data.List.Nodup

/-!
# Lists of pairs as tables

A table with one value for each key is read the same way by a search from the front and by
membership, so the order of its entries does not matter.
-/

namespace ScriptLexicon.Association

variable {α β : Type} {table part : List (α × β)} {k : α} {v : β}

/-- No key has two values. -/
def SingleValued (table : List (α × β)) : Prop :=
  ∀ k v w, (k, v) ∈ table → (k, w) ∈ table → v = w

theorem SingleValued.of_subset (h : SingleValued table) (hsub : part ⊆ table) :
    SingleValued part :=
  fun k v w hv hw => h k v w (hsub hv) (hsub hw)

theorem singleValued_of_nodup (h : (table.map Prod.fst).Nodup) : SingleValued table := by
  intro k v w hv hw
  have heq := List.inj_on_of_nodup_map h hv hw rfl
  exact congrArg Prod.snd heq

/-! ## Searching -/

variable [BEq α] [LawfulBEq α]

theorem mem_of_lookup (h : table.lookup k = some v) : (k, v) ∈ table := by
  obtain ⟨before, after, rfl, -⟩ := List.lookup_eq_some_iff.mp h
  simp

theorem lookup_eq_none_iff : table.lookup k = none ↔ k ∉ table.map Prod.fst := by
  rw [List.lookup_eq_none_iff]
  constructor
  · intro h hk
    obtain ⟨p, hp, rfl⟩ := List.mem_map.mp hk
    simpa using h p hp
  · intro h p hp
    rw [bne_iff_ne]
    rintro rfl
    exact h (List.mem_map_of_mem hp)

theorem exists_lookup_of_mem (h : (k, v) ∈ table) : ∃ w, table.lookup k = some w := by
  cases hk : table.lookup k with
  | none => exact absurd (List.mem_map_of_mem h) (lookup_eq_none_iff.mp hk)
  | some w => exact ⟨w, rfl⟩

theorem lookup_eq_some_iff (hone : SingleValued table) :
    table.lookup k = some v ↔ (k, v) ∈ table := by
  constructor
  · exact mem_of_lookup
  · intro h
    obtain ⟨w, hw⟩ := exists_lookup_of_mem h
    rw [hw, hone k w v (mem_of_lookup hw) h]

/-- Searching the part of a table where a key must stand is searching the whole table. -/
theorem lookup_eq_lookup (hone : SingleValued table) (hsub : part ⊆ table)
    (hall : ∀ v, (k, v) ∈ table → (k, v) ∈ part) : part.lookup k = table.lookup k := by
  apply Option.ext
  intro v
  rw [lookup_eq_some_iff (hone.of_subset hsub), lookup_eq_some_iff hone]
  exact ⟨fun h => hsub h, hall v⟩

end ScriptLexicon.Association
