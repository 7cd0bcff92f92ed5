import Mathlib.Data.List.Nodup
import ScriptLexicon.Proofs.Association
import ScriptLexicon.Token.Identifier
import ScriptLexicon.Token.Name

/-!
# The name table

A table that was built from a list of names finds exactly the names of the list, one for each
code up to the last. For the names of the tokens these are their identifiers.
-/

open ScriptLexicon.Association

namespace ScriptLexicon.NameTable

variable {table after : NameTable} {entry : Code × String} {entries : List (Code × String)}
  {c d : Code} {n : String}

/-! ## Placing one name -/

theorem place?_eq_some_iff :
    table.place? entry = some after ↔
      ∃ i, CodeSpace.position? entry.1 = some i ∧ table[i]? = some none ∧
        after = table.setIfInBounds i (some entry.2) := by
  unfold place?
  cases CodeSpace.position? entry.1 with
  | none => simp
  | some i =>
    simp only [Option.bind_eq_bind, Option.bind_some, Option.some.injEq, exists_eq_left',
      Option.ite_none_right_eq_some]
    grind

theorem position?_inj {i : Nat} (hc : CodeSpace.position? c = some i)
    (hd : CodeSpace.position? d = some i) : c = d := by
  rw [CodeSpace.position?_eq_some_iff] at hc hd
  exact Code.value_inj.mp (hc.2.trans hd.2.symm)

theorem find?_eq_some_iff :
    table.find? c = some n ↔ ∃ i, CodeSpace.position? c = some i ∧ table[i]? = some (some n) := by
  unfold find?
  simp [Option.bind_eq_some_iff, Option.join_eq_some_iff]

theorem find?_place? (h : table.place? entry = some after) :
    after.find? c = some n ↔ table.find? c = some n ∨ (c, n) = entry := by
  obtain ⟨i, hi, hfree, rfl⟩ := place?_eq_some_iff.mp h
  by_cases hc : c = entry.1
  · -- The slot was free, so only the new name is found there.
    subst hc
    have hold : table.find? entry.1 ≠ some n := by
      rw [ne_eq, find?_eq_some_iff]
      rintro ⟨j, hj, hn⟩
      obtain rfl : i = j := Option.some.inj (hi.symm.trans hj)
      simp [hfree] at hn
    have hnew : NameTable.find? (table.setIfInBounds i (some entry.2)) entry.1 = some entry.2 := by
      have hlt : i < table.size := (Array.getElem?_eq_some_iff.mp hfree).1
      exact find?_eq_some_iff.mpr ⟨i, hi, Array.getElem?_setIfInBounds_self_of_lt hlt⟩
    rw [hnew]
    simp [hold, Prod.ext_iff, eq_comm]
  · -- Any other code has another slot, which is left as it was.
    have hne : (c, n) ≠ entry := fun he => hc (congrArg Prod.fst he)
    have hslot : ∀ j, CodeSpace.position? c = some j → i ≠ j := by
      rintro j hj rfl
      exact hc (position?_inj hj hi)
    rw [find?_eq_some_iff, find?_eq_some_iff]
    simp only [hne, or_false]
    apply exists_congr
    intro j
    apply and_congr_right
    intro hj
    rw [Array.getElem?_setIfInBounds_ne (hslot j hj)]

theorem size_place? (h : table.place? entry = some after) : after.size = table.size := by
  obtain ⟨i, -, -, rfl⟩ := place?_eq_some_iff.mp h
  exact Array.size_setIfInBounds

/-! ## Placing a list of names -/

theorem fill?_cons_eq_some_iff {full : NameTable} :
    table.fill? (entry :: entries) = some full ↔
      ∃ after, table.place? entry = some after ∧ after.fill? entries = some full := by
  unfold fill?
  simp [List.foldlM_cons, Option.bind_eq_some_iff]

theorem find?_fill? (h : table.fill? entries = some after) :
    after.find? c = some n ↔ table.find? c = some n ∨ (c, n) ∈ entries := by
  induction entries generalizing table with
  | nil =>
    obtain rfl : table = after := Option.some.inj h
    simp
  | cons entry entries ih =>
    obtain ⟨next, hplace, hfill⟩ := fill?_cons_eq_some_iff.mp h
    rw [ih hfill, find?_place? hplace, List.mem_cons, or_assoc]

theorem size_fill? (h : table.fill? entries = some after) : after.size = table.size := by
  induction entries generalizing table with
  | nil =>
    obtain rfl : table = after := Option.some.inj h
    rfl
  | cons entry entries ih =>
    obtain ⟨next, hplace, hfill⟩ := fill?_cons_eq_some_iff.mp h
    rw [ih hfill, size_place? hplace]

/-! ## A whole table -/

theorem find?_empty : empty.find? c = none := by
  rw [Option.eq_none_iff_forall_ne_some]
  intro n h
  obtain ⟨i, -, hi⟩ := find?_eq_some_iff.mp h
  simp [empty, Array.getElem?_replicate] at hi

theorem ofList?_eq_some_iff :
    ofList? entries = some table ↔ fill? empty entries = some table ∧ table.isFull = true := by
  rw [ofList?, Option.filter_eq_some_iff]

/-- A table finds what it was built from. -/
theorem find?_ofList? (h : ofList? entries = some table) :
    table.find? c = some n ↔ (c, n) ∈ entries := by
  rw [find?_fill? (ofList?_eq_some_iff.mp h).1, find?_empty]
  simp

/-- No code below the last was left without a name. -/
theorem exists_name_of_ofList? (h : ofList? entries = some table) (hlo : -1 ≤ c.value)
    (hhi : c.value ≤ 162) : ∃ n, (c, n) ∈ entries := by
  obtain ⟨hfill, hfull⟩ := ofList?_eq_some_iff.mp h
  have hsize : table.toList.length = 165 := size_fill? hfill
  have hpos : CodeSpace.position? c = some (c.value + 1).toNat := by
    rw [CodeSpace.position?_eq_some_iff, CodeSpace.size_eq]
    omega
  have hlt : (c.value + 1).toNat < table.toList.dropLast.length := by
    rw [List.length_dropLast]
    omega
  have hslot := List.all_eq_true.mp hfull _ (List.getElem_mem hlt)
  rw [List.getElem_dropLast] at hslot
  obtain ⟨n, hn⟩ := Option.isSome_iff_exists.mp hslot
  refine ⟨n, (find?_ofList? h).mp (find?_eq_some_iff.mpr ⟨_, hpos, ?_⟩)⟩
  rw [← hn, Array.getElem_toList]
  exact Array.getElem?_eq_getElem _

theorem ofList?_named : ofList? Token.named = some Token.nameTable :=
  (Option.some_get _).symm

end ScriptLexicon.NameTable
