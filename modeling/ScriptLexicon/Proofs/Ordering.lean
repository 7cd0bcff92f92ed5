import Mathlib.Data.Finset.Card
import Mathlib.Data.Finset.Dedup
import ScriptLexicon.Proofs.Rendering

/-!
# Lists of codes in order

Sorting gives the one ascending arrangement of a list, so neither it nor what is derived from it
depends on the order before. The members of a list are its codes once each, in ascending order, and
as many as its codes have displays. A list is ascending when no code is greater than the next.
-/

namespace ScriptLexicon.Code

variable {a b c : Code} {cs ds : List Code}

/-! ## Sorting -/

protected theorem le_trans (hab : a ≤ b) (hbc : b ≤ c) : a ≤ c := Int.le_trans hab hbc

protected theorem le_antisymm (hab : a ≤ b) (hba : b ≤ a) : a = b :=
  value_inj.mp (Int.le_antisymm hab hba)

theorem sorted_perm (cs : List Code) : (sorted cs).Perm cs := List.mergeSort_perm cs _

theorem pairwise_sorted (cs : List Code) : (sorted cs).Pairwise (· ≤ ·) := by
  have htrans (a b c : Code) (hab : decide (a ≤ b) = true) (hbc : decide (b ≤ c) = true) :
      decide (a ≤ c) = true :=
    decide_eq_true (Code.le_trans (of_decide_eq_true hab) (of_decide_eq_true hbc))
  have htotal (a b : Code) : (decide (a ≤ b) || decide (b ≤ a)) = true := by
    simp only [Bool.or_eq_true, decide_eq_true_iff]
    exact Int.le_total a.value b.value
  exact (List.pairwise_mergeSort htrans htotal cs).imp of_decide_eq_true

/-- There is only one ascending arrangement of a list. -/
theorem eq_sorted_of_perm (hperm : ds.Perm cs) (hpairwise : ds.Pairwise (· ≤ ·)) :
    ds = sorted cs :=
  List.Perm.eq_of_pairwise (fun _ _ _ _ hab hba => Code.le_antisymm hab hba) hpairwise
    (pairwise_sorted cs) (hperm.trans (sorted_perm cs).symm)

theorem sorted_congr (h : cs.Perm ds) : sorted cs = sorted ds :=
  eq_sorted_of_perm ((sorted_perm cs).trans h) (pairwise_sorted cs)

theorem sorted_of_pairwise (h : cs.Pairwise (· ≤ ·)) : sorted cs = cs :=
  (eq_sorted_of_perm (List.Perm.refl cs) h).symm

/-! ## Distinct codes -/

theorem mem_distinct : c ∈ distinct cs ↔ c ∈ cs := List.mem_eraseDups

theorem nodup_distinct (cs : List Code) : (distinct cs).Nodup := by
  cases cs with
  | nil => exact List.nodup_nil
  | cons c cs =>
    rw [distinct, List.eraseDups_cons, List.nodup_cons]
    refine ⟨?_, nodup_distinct (cs.filter fun d => !d == c)⟩
    rw [List.mem_eraseDups]
    simp
termination_by cs.length
decreasing_by exact Nat.lt_succ_of_le (List.length_filter_le _ cs)

theorem distinct_perm (h : cs.Perm ds) : (distinct cs).Perm (distinct ds) := by
  rw [List.perm_ext_iff_of_nodup (nodup_distinct cs) (nodup_distinct ds)]
  intro c
  rw [mem_distinct, mem_distinct, h.mem_iff]

/-! ## Members -/

theorem members_perm (cs : List Code) : (members cs).Perm (distinct cs) := sorted_perm (distinct cs)

theorem mem_members : c ∈ members cs ↔ c ∈ cs := by
  rw [(members_perm cs).mem_iff, mem_distinct]

theorem nodup_members (cs : List Code) : (members cs).Nodup :=
  (members_perm cs).nodup_iff.mpr (nodup_distinct cs)

theorem length_members (cs : List Code) : (members cs).length = (distinct cs).length :=
  (members_perm cs).length_eq

theorem pairwise_members (cs : List Code) : (members cs).Pairwise fun a b => a.value < b.value := by
  apply ((pairwise_sorted (distinct cs)).and (nodup_members cs)).imp
  rintro a b ⟨hle, hne⟩
  exact Int.lt_iff_le_and_ne.mpr ⟨hle, fun h => hne (value_inj.mp h)⟩

theorem members_congr (h : cs.Perm ds) : members cs = members ds := sorted_congr (distinct_perm h)

/-- Different codes have different displays, so displays are counted by counting codes. -/
theorem card_displays (cs : List Code) :
    (cs.map display).toFinset.card = (distinct cs).length := by
  have hinj : Function.Injective display := fun _ _ h => display_inj.mp h
  have hset : (cs.map display).toFinset = ((distinct cs).map display).toFinset := by
    ext text
    simp only [List.mem_toFinset, List.mem_map, mem_distinct]
  rw [hset, List.toFinset_card_of_nodup ((nodup_distinct cs).map hinj), List.length_map]

/-! ## Comparing neighbours -/

theorem compare_eq_gt_iff : compare a b = .gt ↔ ¬ a ≤ b := by
  rw [le_iff, Int.not_le]
  exact Int.compare_eq_gt

theorem gt_not_mem_comparisons_iff : .gt ∉ comparisons cs ↔ cs.IsChain (· ≤ ·) := by
  induction cs with
  | nil => simp [comparisons]
  | cons a cs ih =>
    cases cs with
    | nil => simp [comparisons]
    | cons b cs =>
      rw [comparisons, List.mem_cons, not_or, ih, List.isChain_cons_cons, eq_comm,
        compare_eq_gt_iff, not_not]

theorem pairwise_iff_gt_not_mem : cs.Pairwise (· ≤ ·) ↔ .gt ∉ comparisons cs := by
  have htrans : Trans (α := Code) (· ≤ ·) (· ≤ ·) (· ≤ ·) := ⟨Code.le_trans⟩
  rw [gt_not_mem_comparisons_iff, List.isChain_iff_pairwise]

/-- **Order, members and displays of a list agree.** The members are the codes of the list once each
and ascending by value, and as many as the list has displays. Sorting gives the only arrangement
that ascends by value, so no result depends on the order before. A list that has no greater code
before a smaller one is sorted already. -/
theorem order_members_displays_agree (cs : List Code) :
    (((members cs).Pairwise fun a b => a.value < b.value) ∧ ∀ c, c ∈ members cs ↔ c ∈ cs) ∧
    ((members cs).length = (distinct cs).length ∧
      (members cs).length = (cs.map display).toFinset.card) ∧
    ((sorted cs).Perm cs ∧ ((sorted cs).Pairwise fun a b => a.value ≤ b.value) ∧
      ∀ ds : List Code, ds.Perm cs → (ds.Pairwise fun a b => a.value ≤ b.value) →
        ds = sorted cs) ∧
    (∀ ds, cs.Perm ds →
      (distinct cs).length = (distinct ds).length ∧ members cs = members ds ∧
      (sorted cs).map display = (sorted ds).map display ∧
      cs.countP inSpace = ds.countP inSpace ∧ cs.countP isOperation = ds.countP isOperation ∧
      cs.countP isAssignment = ds.countP isAssignment) ∧
    ((cs.Pairwise fun a b => a.value ≤ b.value) ↔ .gt ∉ comparisons cs) ∧
    (.gt ∉ comparisons cs → (sorted cs).map display = cs.map display) := by
  refine ⟨⟨pairwise_members cs, fun c => mem_members⟩, ⟨length_members cs, ?_⟩,
    ⟨sorted_perm cs, pairwise_sorted cs, fun ds => eq_sorted_of_perm⟩, ?_,
    pairwise_iff_gt_not_mem, ?_⟩
  · rw [length_members, card_displays]
  · intro ds h
    refine ⟨(distinct_perm h).length_eq, members_congr h, ?_, h.countP_eq _, h.countP_eq _,
      h.countP_eq _⟩
    rw [sorted_congr h]
  · intro h
    rw [sorted_of_pairwise (pairwise_iff_gt_not_mem.mpr h)]

/-- Sorted by value, `EOF` stands before `ADD`, which comes first as a text. -/
theorem order_of_add_and_end :
    sorted [⟨21⟩, ⟨0⟩, ⟨21⟩] = [⟨0⟩, ⟨21⟩, ⟨21⟩] ∧
      members [⟨21⟩, ⟨0⟩, ⟨21⟩] = members [⟨0⟩, ⟨21⟩, ⟨21⟩] ∧
      (sorted [⟨0⟩, ⟨21⟩, ⟨21⟩]).map display = ["EOF", "ADD", "ADD"] ∧ "ADD" < "EOF" := by
  have hperm : [(⟨21⟩ : Code), ⟨0⟩, ⟨21⟩].Perm [⟨0⟩, ⟨21⟩, ⟨21⟩] := List.Perm.swap _ _ _
  have hascending : [(⟨0⟩ : Code), ⟨21⟩, ⟨21⟩].Pairwise fun a b => a.value ≤ b.value := by decide
  obtain ⟨-, -, ⟨-, -, hunique⟩, hsame, -, -⟩ := order_members_displays_agree [⟨21⟩, ⟨0⟩, ⟨21⟩]
  obtain ⟨-, -, -, -, -, hsorted⟩ := order_members_displays_agree [⟨0⟩, ⟨21⟩, ⟨21⟩]
  have hend : (⟨0⟩ : Code).display = "EOF" :=
    display_of_name? (name?_eq_some_iff.mpr (List.mem_of_getElem? (i := 1) rfl))
  have hadd : (⟨21⟩ : Code).display = "ADD" :=
    display_of_name? (name?_eq_some_iff.mpr (List.mem_of_getElem? (i := 22) rfl))
  refine ⟨(hunique _ hperm.symm hascending).symm, (hsame _ hperm).2.1, ?_, by decide⟩
  rw [hsorted (by decide), List.map_cons, List.map_cons, List.map_cons, List.map_nil, hend, hadd]

end ScriptLexicon.Code
