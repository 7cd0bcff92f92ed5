import ScriptLexicon.Walk

/-!
# Steps of a walk

A step takes the codes it demands from one end of what is left, or all of them when fewer are
left. Its answer is read off the codes it takes, and everything else stays where it was.
-/

namespace ScriptLexicon.Walk

inductive End where
  | front
  | back
deriving DecidableEq

def End.other : End → End
  | .front => .back
  | .back => .front

variable {w : Walk} {i k : Nat} {step : Step} {steps : List Step} {e : End}

/-! ## What is left -/

theorem length_toList (w : Walk) : w.toList.length = w.count := by
  rw [toList, List.length_map, List.length_range']

/-- The codes that are left, in the order in which they are met from an end. -/
def facing (w : Walk) : End → List Code
  | .front => w.toList
  | .back => w.toList.reverse

theorem getElem?_toList (w : Walk) (i : Nat) :
    w.toList[i]? =
      if w.front + i < w.back then some (CodeSpace.codeAt (w.front + i)) else none := by
  have hcount : i < w.count ↔ w.front + i < w.back := by
    rw [count]
    omega
  rw [toList, List.getElem?_map]
  split
  · rename_i hi
    rw [List.getElem?_range' (hcount.mpr hi), Nat.one_mul, Option.map_some]
  · rename_i hi
    rw [List.getElem?_eq_none (by rw [List.length_range']; omega), Option.map_none]

theorem first?_eq_head? (w : Walk) : w.first? = w.toList.head? := by
  rw [List.head?_eq_getElem?, getElem?_toList, first?, Nat.add_zero]

theorem last?_eq_getLast? (w : Walk) : w.last? = w.toList.getLast? := by
  rw [List.getLast?_eq_getElem?, length_toList, getElem?_toList, last?, count]
  split
  · rename_i hlt
    have hlast : w.front + (w.back - w.front - 1) = w.back - 1 := by omega
    rw [hlast, if_pos (by omega)]
  · rw [if_neg (by omega)]

/-! ## Moving an end -/

@[simp] theorem front_advance (w : Walk) (k : Nat) :
    (w.advance k).front = min (w.front + k) w.back := rfl

@[simp] theorem back_advance (w : Walk) (k : Nat) : (w.advance k).back = w.back := rfl

@[simp] theorem front_retreat (w : Walk) (k : Nat) : (w.retreat k).front = w.front := rfl

@[simp] theorem back_retreat (w : Walk) (k : Nat) :
    (w.retreat k).back = max (w.back - k) w.front := rfl

theorem toList_advance (w : Walk) (k : Nat) : (w.advance k).toList = w.toList.drop k := by
  have hle := w.front_le_back
  apply List.ext_getElem?
  intro i
  rw [List.getElem?_drop, getElem?_toList, getElem?_toList, front_advance, back_advance]
  by_cases hi : w.front + (k + i) < w.back
  · have hfront : min (w.front + k) w.back + i = w.front + (k + i) := by omega
    rw [hfront]
  · rw [if_neg hi, if_neg (by omega)]

theorem toList_retreat (w : Walk) (k : Nat) :
    (w.retreat k).toList = w.toList.take (w.count - k) := by
  apply List.ext_getElem?
  intro i
  rw [List.getElem?_take, getElem?_toList, getElem?_toList, front_retreat, back_retreat, count]
  by_cases hi : w.front + i < w.back - k
  · rw [if_pos (by omega), if_pos (by omega), if_pos (by omega)]
  · rw [if_neg (by omega), if_neg (by omega)]

theorem take_append_advance (w : Walk) (k : Nat) :
    w.toList.take k ++ (w.advance k).toList = w.toList := by
  rw [toList_advance, List.take_append_drop]

theorem retreat_append_take (w : Walk) (k : Nat) :
    (w.retreat k).toList ++ (w.toList.reverse.take k).reverse = w.toList := by
  rw [toList_retreat, List.take_reverse, List.reverse_reverse, length_toList,
    List.take_append_drop]

/-- Moves an end inwards, up to the other end at most. -/
def move (w : Walk) : End → Nat → Walk
  | .front => w.advance
  | .back => w.retreat

theorem eq_of_ends {v w : Walk} (hfront : v.front = w.front) (hback : v.back = w.back) :
    v = w := by
  cases v
  cases w
  simp only at hfront hback
  simp only [hfront, hback]

theorem move_zero (w : Walk) (e : End) : w.move e 0 = w := by
  have hle := w.front_le_back
  cases e with
  | front => exact eq_of_ends (Nat.min_eq_left hle) rfl
  | back => exact eq_of_ends rfl (Nat.max_eq_left hle)

theorem move_move (w : Walk) (e : End) (j k : Nat) : (w.move e j).move e k = w.move e (j + k) := by
  have hle := w.front_le_back
  cases e with
  | front =>
    apply eq_of_ends
    · simp only [move, front_advance, back_advance]
      omega
    · rfl
  | back =>
    apply eq_of_ends
    · rfl
    · simp only [move, front_retreat, back_retreat]
      omega

theorem count_move (w : Walk) (e : End) (k : Nat) : (w.move e k).count = w.count - k := by
  cases e <;> simp only [move, count, front_advance, back_advance, front_retreat, back_retreat] <;>
    omega

theorem move_of_count_eq_zero (h : w.count = 0) (e : End) (k : Nat) : w.move e k = w := by
  have hle := w.front_le_back
  rw [count] at h
  cases e <;> apply eq_of_ends <;>
    simp only [move, front_advance, back_advance, front_retreat, back_retreat] <;> omega

theorem facing_move (w : Walk) (e : End) (k : Nat) :
    (w.move e k).facing e = (w.facing e).drop k := by
  cases e with
  | front => exact toList_advance w k
  | back => rw [move, facing, facing, toList_retreat, List.drop_reverse, length_toList]

/-- Moving an end takes the codes that are met last from the other one. -/
theorem facing_move_other (w : Walk) (e : End) (k : Nat) :
    (w.move e.other k).facing e = (w.facing e).take (w.count - k) := by
  cases e with
  | front => exact toList_retreat w k
  | back => rw [End.other, move, facing, facing, toList_advance, List.reverse_drop, length_toList]

/-! ## What a step takes -/

/-- The end a step works at. Asking for the size works at neither. -/
def Step.end? : Step → Option End
  | .next | .nth _ | .take _ => some .front
  | .nextBack | .nthBack _ => some .back
  | .sizeHint => none

/-- How many codes a step takes from an end, if that many are left. -/
def Step.demand : Step → End → Nat
  | .next, .front => 1
  | .nth k, .front => k + 1
  | .take k, .front => k
  | .nextBack, .back => 1
  | .nthBack k, .back => k + 1
  | _, _ => 0

def taken (w : Walk) (e : End) (step : Step) : List Code := (w.facing e).take (step.demand e)

/-- The answer of a step that took codes from the front and from the back while `left` were left. -/
def Step.answer (front back : List Code) (left : Nat) : Step → Answer
  | .next => .code front[0]?
  | .nth k => .code front[k]?
  | .take _ => .codes front
  | .nextBack => .code back[0]?
  | .nthBack k => .code back[k]?
  | .sizeHint => .bounds left left

theorem fst_take (w : Walk) (k : Nat) : (w.take k).1 = w.toList.take k := by
  rw [toList, ← List.map_take]
  change (List.range' w.front (min k w.count)).map CodeSpace.codeAt = _
  rcases Nat.le_total k w.count with hk | hk
  · rw [Nat.min_eq_left hk, List.take_range'_of_length_ge hk]
  · rw [Nat.min_eq_right hk, List.take_range'_of_length_le hk]

theorem getElem?_reverse_toList (w : Walk) (k : Nat) :
    w.toList.reverse[k]? =
      if w.front + k < w.back then some (CodeSpace.codeAt (w.back - 1 - k)) else none := by
  split
  · rename_i hk
    have hlt : k < w.toList.length := by
      rw [length_toList, count]
      omega
    have hpos : w.front + (w.count - 1 - k) = w.back - 1 - k := by
      rw [count]
      omega
    rw [List.getElem?_reverse hlt, length_toList, getElem?_toList, hpos, if_pos (by omega)]
  · apply List.getElem?_eq_none
    rw [List.length_reverse, length_toList, count]
    omega

theorem answer_perform (w : Walk) (step : Step) :
    (w.perform step).1 = step.answer (w.taken .front step) (w.taken .back step) w.count := by
  cases step with
  | next =>
    change Answer.code w.first? = .code (w.toList.take 1)[0]?
    rw [first?_eq_head?, List.head?_eq_getElem?, List.getElem?_take_of_lt Nat.zero_lt_one]
  | nth k =>
    change Answer.code _ = .code (w.toList.take (k + 1))[k]?
    rw [List.getElem?_take_of_lt (Nat.lt_succ_self k), getElem?_toList]
    rfl
  | take k => exact congrArg Answer.codes (fst_take w k)
  | nextBack =>
    change Answer.code w.last? = .code (w.toList.reverse.take 1)[0]?
    rw [List.getElem?_take_of_lt Nat.zero_lt_one, last?_eq_getLast?, ← List.head?_eq_getElem?,
      List.head?_reverse]
  | nthBack k =>
    change Answer.code _ = .code (w.toList.reverse.take (k + 1))[k]?
    rw [List.getElem?_take_of_lt (Nat.lt_succ_self k), getElem?_reverse_toList]
    rfl
  | sizeHint => rfl

/-- A step splits what was left into what it took from either end and what is left after it. -/
theorem toList_perform (w : Walk) (step : Step) :
    w.taken .front step ++ (w.perform step).2.toList ++ (w.taken .back step).reverse =
      w.toList := by
  cases step with
  | next | nth k | take k => exact (List.append_nil _).trans (take_append_advance w _)
  | nextBack | nthBack k => exact retreat_append_take w _
  | sizeHint => exact List.append_nil w.toList

/-- A step moves either end by what it demands there. -/
theorem snd_perform (w : Walk) (step : Step) (e : End) :
    (w.perform step).2 = (w.move e (step.demand e)).move e.other (step.demand e.other) := by
  -- At most one of the two moves is by more than nothing.
  cases e with
  | front =>
    cases step with
    | next | nth k | take k => exact (move_zero _ .back).symm
    | nextBack | nthBack k => exact congrArg (move · .back _) (move_zero w .front).symm
    | sizeHint => exact ((move_zero _ .back).trans (move_zero w .front)).symm
  | back =>
    cases step with
    | next | nth k | take k => exact congrArg (move · .front _) (move_zero w .back).symm
    | nextBack | nthBack k => exact (move_zero _ .front).symm
    | sizeHint => exact ((move_zero _ .front).trans (move_zero w .back)).symm

theorem count_perform (w : Walk) (step : Step) :
    (w.perform step).2.count = w.count - (step.demand .front + step.demand .back) := by
  rw [snd_perform w step .front, count_move, count_move, Nat.sub_sub, End.other]

theorem demand_eq_zero (h : step.end? ≠ some e) : step.demand e = 0 := by
  cases e with
  | front =>
    cases step with
    | next | nth k | take k => exact absurd rfl h
    | nextBack | nthBack k | sizeHint => rfl
  | back =>
    cases step with
    | nextBack | nthBack k => exact absurd rfl h
    | next | nth k | take k | sizeHint => rfl

theorem demand_other_eq_zero (h : step.end? = some e) : step.demand e.other = 0 := by
  apply demand_eq_zero
  rw [h]
  cases e <;> decide

theorem snd_perform_of_end (w : Walk) (h : step.end? = some e) :
    (w.perform step).2 = w.move e (step.demand e) := by
  rw [snd_perform w step e, demand_other_eq_zero h, move_zero]

theorem facing_perform (w : Walk) (h : step.end? = some e) :
    (w.perform step).2.facing e = (w.facing e).drop (step.demand e) := by
  rw [snd_perform_of_end w h, facing_move]

/-- A step cuts what is left at its far side, seen from an end it did not work at. -/
theorem facing_perform_of_ne (w : Walk) (h : step.end? ≠ some e) :
    (w.perform step).2.facing e = (w.facing e).take (w.count - step.demand e.other) := by
  rw [snd_perform w step e, demand_eq_zero h, move_zero, facing_move_other]

/-! ## When nothing is left -/

/-- The answer a step gives when nothing is left. -/
def Step.blank : Step → Answer
  | .next | .nth _ | .nextBack | .nthBack _ => .code none
  | .take _ => .codes []
  | .sizeHint => .bounds 0 0

theorem perform_of_count_eq_zero (h : w.count = 0) (step : Step) :
    w.perform step = (step.blank, w) := by
  have hnil : w.toList = [] := List.eq_nil_of_length_eq_zero ((length_toList w).trans h)
  apply Prod.ext
  · rw [answer_perform, taken, taken, facing, facing, hnil, h]
    cases step <;> simp [Step.answer, Step.blank]
  · rw [snd_perform w step .front, move_of_count_eq_zero h, move_of_count_eq_zero h]

/-! ## Runs -/

theorem run_cons (w : Walk) (step : Step) (steps : List Step) :
    w.run (step :: steps) =
      ((w.perform step).1 :: ((w.perform step).2.run steps).1, ((w.perform step).2.run steps).2) :=
  rfl

theorem length_run (w : Walk) (steps : List Step) : (w.run steps).1.length = steps.length := by
  induction steps generalizing w with
  | nil => rfl
  | cons step steps ih => rw [run_cons, List.length_cons, ih, List.length_cons]

theorem run_append (w : Walk) (steps more : List Step) :
    w.run (steps ++ more) =
      ((w.run steps).1 ++ ((w.run steps).2.run more).1, ((w.run steps).2.run more).2) := by
  induction steps generalizing w with
  | nil => rfl
  | cons step steps ih => rw [List.cons_append, run_cons, ih, run_cons, List.cons_append]

theorem getElem?_run (w : Walk) (before : List Step) (step : Step) (after : List Step) :
    (w.run (before ++ step :: after)).1[before.length]? =
      some ((w.run before).2.perform step).1 := by
  rw [run_append, run_cons, List.getElem?_append_right (Nat.le_of_eq (length_run w before)),
    length_run, Nat.sub_self, List.getElem?_cons_zero]

theorem run_of_count_eq_zero (h : w.count = 0) (steps : List Step) :
    w.run steps = (steps.map Step.blank, w) := by
  induction steps with
  | nil => rfl
  | cons step steps ih => rw [run_cons, perform_of_count_eq_zero h, ih, List.map_cons]

/-- The step that takes one code from an end. -/
def End.single : End → Step
  | .front => .next
  | .back => .nextBack

/-- Taking one code after the other meets the codes that are left in their order. -/
theorem run_replicate_single (w : Walk) (e : End) (n : Nat) :
    (w.run (List.replicate n e.single)).1 =
      (List.range n).map fun i => Answer.code (w.facing e)[i]? := by
  induction n generalizing w with
  | zero => rfl
  | succ n ih =>
    have hfirst : (w.perform e.single).1 = .code (w.facing e)[0]? := by
      rw [answer_perform]
      cases e <;> simp [End.single, Step.answer, taken, Step.demand]
    have hrest (i : Nat) : ((w.perform e.single).2.facing e)[i]? = (w.facing e)[i + 1]? := by
      have hone : e.single.end? = some e ∧ e.single.demand e = 1 := by cases e <;> exact ⟨rfl, rfl⟩
      rw [facing_perform w hone.1, hone.2, List.getElem?_drop, Nat.add_comm]
    rw [List.replicate_succ, run_cons, ih, hfirst, List.range_succ_eq_map, List.map_cons,
      List.map_map]
    simp only [hrest, Function.comp_def, Nat.succ_eq_add_one]

theorem mem_run_replicate_next (w : Walk) (c : Code) :
    (∃ n, Answer.code (some c) ∈ (w.run (List.replicate n .next)).1) ↔ c ∈ w.toList := by
  have hrun : ∀ n, (w.run (List.replicate n .next)).1 = _ := run_replicate_single w .front
  simp only [hrun, facing, List.mem_map, List.mem_range, Answer.code.injEq]
  rw [List.mem_iff_getElem?]
  constructor
  · rintro ⟨n, i, -, hi⟩
    exact ⟨i, hi⟩
  · rintro ⟨i, hi⟩
    exact ⟨i + 1, i, Nat.lt_succ_self i, hi⟩

end ScriptLexicon.Walk
