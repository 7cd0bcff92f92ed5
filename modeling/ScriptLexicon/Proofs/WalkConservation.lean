import Mathlib.Data.List.Basic
import ScriptLexicon.Proofs.Walk

/-!
# Conservation of the walked codes

What a walk took from the front, what is left, and what it took from the back, read backwards,
are together the codes of the code space in order. No code is lost, and none is taken twice.
-/

namespace ScriptLexicon.Walk

variable {w : Walk} {step : Step} {steps : List Step} {e : End} {c : Code}

/-! ## What a run takes -/

/-- The codes that steps take from an end, in the order in which they are taken. -/
def consumed (e : End) (w : Walk) : List Step → List Code
  | [] => []
  | step :: steps => w.taken e step ++ consumed e (w.perform step).2 steps

/-- The codes in an answer. -/
def Answer.given : Answer → List Code
  | .code c => c.toList
  | .codes cs => cs
  | .bounds _ _ => []

/-- The codes that the steps at an end were answered with. -/
def returned (e : End) (steps : List Step) (answers : List Answer) : List Code :=
  (steps.zip answers).flatMap fun p => if p.1.end? = some e then p.2.given else []

theorem returned_cons (e : End) (step : Step) (steps : List Step) (answer : Answer)
    (answers : List Answer) :
    returned e (step :: steps) (answer :: answers) =
      (if step.end? = some e then answer.given else []) ++ returned e steps answers := rfl

theorem consumed_append_run (w : Walk) (steps : List Step) :
    consumed .front w steps ++ (w.run steps).2.toList ++ (consumed .back w steps).reverse =
      w.toList := by
  induction steps generalizing w with
  | nil => exact List.append_nil w.toList
  | cons step steps ih =>
    calc
      _ = w.taken .front step ++ (consumed .front (w.perform step).2 steps ++
            ((w.perform step).2.run steps).2.toList ++
            (consumed .back (w.perform step).2 steps).reverse) ++
            (w.taken .back step).reverse := by
        simp only [consumed, run_cons, List.reverse_append, List.append_assoc]
      _ = w.toList := by rw [ih, toList_perform]

theorem toList_getElem?_sublist (cs : List Code) (i : Nat) : cs[i]?.toList.Sublist cs := by
  cases h : cs[i]? with
  | none => exact List.nil_sublist cs
  | some c => exact List.singleton_sublist.mpr (List.mem_of_getElem? h)

theorem given_sublist_taken (w : Walk) (h : step.end? = some e) :
    (w.perform step).1.given.Sublist (w.taken e step) := by
  rw [answer_perform]
  cases step with
  | next | nth k | nextBack | nthBack k =>
    obtain rfl := Option.some.inj h
    exact toList_getElem?_sublist _ _
  | take k =>
    obtain rfl := Option.some.inj h
    exact List.Sublist.refl _
  | sizeHint => cases h

/-- Codes that are taken and not returned were skipped. -/
theorem returned_sublist_consumed (e : End) (w : Walk) (steps : List Step) :
    (returned e steps (w.run steps).1).Sublist (consumed e w steps) := by
  induction steps generalizing w with
  | nil => exact List.Sublist.slnil
  | cons step steps ih =>
    rw [run_cons, returned_cons, consumed]
    apply List.Sublist.append _ (ih _)
    split
    · rename_i h
      exact given_sublist_taken w h
    · exact List.nil_sublist _

/-! ## The whole code space -/

theorem toList_start : start.toList = (List.range 165).map CodeSpace.codeAt := by
  rw [List.range_eq_range']
  rfl

theorem value_toList_start :
    start.toList.map Code.value = (List.range 165).map fun (i : Nat) => (i : Int) - 1 := by
  rw [toList_start, List.map_map]
  apply List.map_congr_left
  intro i hi
  exact CodeSpace.value_codeAt (List.mem_range.mp hi)

theorem pairwise_toList_start : start.toList.Pairwise (· < ·) := by
  have hvalues : (start.toList.map Code.value).Pairwise (· < ·) := by
    rw [value_toList_start, List.pairwise_map]
    apply List.pairwise_lt_range.imp
    intro i j hij
    omega
  rw [List.pairwise_map] at hvalues
  exact hvalues

theorem mem_toList_start : c ∈ start.toList ↔ c.inSpace = true := by
  have hvalue : c ∈ start.toList ↔ c.value ∈ start.toList.map Code.value := by
    constructor
    · exact List.mem_map_of_mem
    · intro h
      obtain ⟨d, hd, hdc⟩ := List.mem_map.mp h
      exact Code.value_inj.mp hdc ▸ hd
  rw [hvalue, value_toList_start, Code.inSpace_iff, List.mem_map]
  constructor
  · rintro ⟨i, hi, hic⟩
    rw [List.mem_range] at hi
    omega
  · rintro ⟨hlo, hhi⟩
    refine ⟨(c.value + 1).toNat, ?_, ?_⟩
    · rw [List.mem_range]
      omega
    · omega

/-! ## Runs from the start -/

theorem pairwise_consumed (steps : List Step) :
    (consumed .front start steps).Pairwise (· < ·) ∧
    (consumed .back start steps).Pairwise (· > ·) ∧
    ∀ c ∈ consumed .front start steps, ∀ d ∈ consumed .back start steps, c < d := by
  have h := pairwise_toList_start
  rw [← consumed_append_run start steps, List.pairwise_append, List.pairwise_append,
    List.pairwise_reverse] at h
  obtain ⟨⟨hfront, -, -⟩, hback, hapart⟩ := h
  refine ⟨hfront, hback, ?_⟩
  intro c hc d hd
  exact hapart c (List.mem_append_left _ hc) d (List.mem_reverse.mpr hd)

theorem inSpace_of_mem_consumed (h : c ∈ consumed e start steps) : c.inSpace = true := by
  rw [← mem_toList_start, ← consumed_append_run start steps]
  cases e with
  | front => exact List.mem_append_left _ (List.mem_append_left _ h)
  | back => exact List.mem_append_right _ (List.mem_reverse.mpr h)

theorem disjoint_returned (steps : List Step) :
    (returned .front steps (start.run steps).1).Disjoint
      (returned .back steps (start.run steps).1) := by
  intro c hfront hback
  have hlt := (pairwise_consumed steps).2.2 c ((returned_sublist_consumed _ _ _).subset hfront) c
    ((returned_sublist_consumed _ _ _).subset hback)
  rw [Code.lt_iff] at hlt
  omega

theorem count_run (steps : List Step) :
    (start.run steps).2.count =
      165 - (consumed .front start steps).length - (consumed .back start steps).length := by
  have h := congrArg List.length (consumed_append_run start steps)
  rw [List.length_append, List.length_append, List.length_reverse, length_toList,
    toList_start, List.length_map, List.length_range] at h
  omega

theorem first?_eq_none_iff (w : Walk) : w.first? = none ↔ w.count = 0 := by
  rw [first?_eq_head?, List.head?_eq_none_iff, ← List.length_eq_zero_iff, length_toList]

theorem last?_eq_none_iff (w : Walk) : w.last? = none ↔ w.count = 0 := by
  rw [last?_eq_getLast?, List.getLast?_eq_none_iff, ← List.length_eq_zero_iff, length_toList]

/-- **A walk conserves the codes of the code space.** After any steps the codes taken from the
front, those left, and those taken from the back are the whole space in order. Every answer is
read off the codes its step took, and once nothing is left all answers are blank. -/
theorem run_conserves_code_space :
    (∀ steps,
      (consumed .front start steps ++ (start.run steps).2.toList ++
          (consumed .back start steps).reverse).map Code.value =
        (List.range 165).map (fun (i : Nat) => (i : Int) - 1) ∧
      (returned .front steps (start.run steps).1).Pairwise (· < ·) ∧
      (returned .back steps (start.run steps).1).Pairwise (· > ·) ∧
      (returned .front steps (start.run steps).1).Disjoint
        (returned .back steps (start.run steps).1) ∧
      (∀ e, ∀ c ∈ returned e steps (start.run steps).1, c.inSpace = true)) ∧
    (∀ steps, let left := (start.run steps).2
      left.count =
        165 - (consumed .front start steps).length - (consumed .back start steps).length ∧
      left.count = left.toList.length ∧
      left.first? = left.toList.head? ∧ (left.first? = none ↔ left.count = 0) ∧
      left.last? = left.toList.getLast? ∧ (left.last? = none ↔ left.count = 0)) ∧
    (∀ before step after, let left := (start.run before).2
      (start.run (before ++ step :: after)).1[before.length]? =
        some (step.answer (left.taken .front step) (left.taken .back step) left.count)) ∧
    ∀ before after, (start.run before).2.count = 0 →
      start.run (before ++ after) =
        ((start.run before).1 ++ after.map Step.blank, (start.run before).2) := by
  refine ⟨?_, ?_, ?_, ?_⟩
  · intro steps
    have hsub := fun e => returned_sublist_consumed e start steps
    obtain ⟨hfront, hback, -⟩ := pairwise_consumed steps
    refine ⟨?_, hfront.sublist (hsub .front), hback.sublist (hsub .back),
      disjoint_returned steps, ?_⟩
    · rw [consumed_append_run, value_toList_start]
    · intro e c hc
      exact inSpace_of_mem_consumed ((hsub e).subset hc)
  · intro steps left
    exact ⟨count_run steps, (length_toList left).symm, first?_eq_head? left,
      first?_eq_none_iff left, last?_eq_getLast? left, last?_eq_none_iff left⟩
  · intro before step after left
    rw [getElem?_run, answer_perform]
  · intro before after h
    rw [run_append, run_of_count_eq_zero h]

/-- The last code goes to the back, and the front finds nothing after it. -/
theorem blank_after_ends_meet :
    (start.run [.take 164, .nextBack]).2.count = 0 ∧
    start.run ([.take 164, .nextBack] ++ [.next, .nthBack 2, .take 1]) =
      ((start.run [.take 164, .nextBack]).1 ++ [.code none, .code none, .codes []],
        (start.run [.take 164, .nextBack]).2) := by
  have hcount : (start.run [.take 164, .nextBack]).2.count = 0 := by decide
  exact ⟨hcount, run_conserves_code_space.2.2.2 _ [.next, .nthBack 2, .take 1] hcount⟩

end ScriptLexicon.Walk
