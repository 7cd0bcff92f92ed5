import ScriptLexicon.Proofs.WalkConservation

/-!
# Long steps as single steps

A step that passes over codes or takes several at once does what steps for one code each do in a
row. Put in its place they give its answer together, and no other answer changes.
-/

namespace ScriptLexicon.Walk

variable {w : Walk} {e : End} {step : Step} {k : Nat}

/-! ## Moving an end by single steps -/

theorem snd_run_replicate_single (w : Walk) (e : End) (n : Nat) :
    (w.run (List.replicate n e.single)).2 = w.move e n := by
  induction n generalizing w with
  | zero => exact (move_zero w e).symm
  | succ n ih =>
    have hone : (w.perform e.single).2 = w.move e 1 := by cases e <;> rfl
    rw [List.replicate_succ, run_cons, ih, hone, move_move, Nat.add_comm]

/-! ## One step in single steps -/

/-- Steps for one code each, in place of a step that may be for more. -/
def Step.singles : Step → List Step
  | .nth k => List.replicate (k + 1) .next
  | .nthBack k => List.replicate (k + 1) .nextBack
  | .take k => List.replicate k .next
  | .next => [.next]
  | .nextBack => [.nextBack]
  | .sizeHint => [.sizeHint]

/-- The answer of a step from those of its single steps: the last one, or for `take` all the codes
that were given. -/
def Step.gather (step : Step) (answers : List Answer) : Answer :=
  match step with
  | .take _ => .codes (answers.flatMap Answer.given)
  | _ => answers.getLast?.getD (.code none)

theorem singles_eq (h : step.end? = some e) :
    step.singles = List.replicate (step.demand e) e.single := by
  cases step with
  | next | nth k | take k | nextBack | nthBack k =>
    obtain rfl := Option.some.inj h
    rfl
  | sizeHint => cases h

theorem snd_run_singles (w : Walk) (step : Step) :
    (w.run step.singles).2 = (w.perform step).2 := by
  cases h : step.end? with
  | some e => rw [singles_eq h, snd_run_replicate_single, snd_perform_of_end w h]
  | none =>
    cases step with
    | sizeHint => rfl
    | next | nth k | take k | nextBack | nthBack k => cases h

theorem getLast?_run_replicate_single (w : Walk) (e : End) (k : Nat) :
    (w.run (List.replicate (k + 1) e.single)).1.getLast? = some (.code (w.facing e)[k]?) := by
  rw [run_replicate_single]
  simp [List.range_succ]

theorem flatMap_range_getElem? {α : Type} (xs : List α) (k : Nat) :
    ((List.range k).flatMap fun i => xs[i]?.toList) = xs.take k := by
  induction k with
  | zero => simp
  | succ k ih => simp [List.range_succ, List.take_add_one, ih]

theorem answer_nth (w : Walk) (k : Nat) :
    (w.perform (.nth k)).1 = .code (w.facing .front)[k]? :=
  congrArg Answer.code (getElem?_toList w k).symm

theorem answer_nthBack (w : Walk) (k : Nat) :
    (w.perform (.nthBack k)).1 = .code (w.facing .back)[k]? :=
  congrArg Answer.code (getElem?_reverse_toList w k).symm

theorem gather_run_singles (w : Walk) (step : Step) :
    step.gather (w.run step.singles).1 = (w.perform step).1 := by
  cases step with
  | next | nextBack | sizeHint => rfl
  | nth k =>
    change (w.run (List.replicate (k + 1) End.front.single)).1.getLast?.getD (.code none) = _
    rw [getLast?_run_replicate_single, answer_nth, Option.getD_some]
  | nthBack k =>
    change (w.run (List.replicate (k + 1) End.back.single)).1.getLast?.getD (.code none) = _
    rw [getLast?_run_replicate_single, answer_nthBack, Option.getD_some]
  | take k =>
    change Answer.codes ((w.run (List.replicate k End.front.single)).1.flatMap Answer.given) =
      Answer.codes (w.take k).1
    rw [run_replicate_single, List.flatMap_map, fst_take]
    exact congrArg Answer.codes (flatMap_range_getElem? w.toList k)

/-! ## Any steps of a run in single steps -/

/-- The steps with those that are marked replaced by their single steps. -/
def expand : List (Step × Bool) → List Step
  | [] => []
  | (step, true) :: rest => step.singles ++ expand rest
  | (step, false) :: rest => step :: expand rest

/-- The answers with those of single steps gathered where a step was marked. -/
def collect : List (Step × Bool) → List Answer → List Answer
  | (step, true) :: rest, answers =>
    step.gather (answers.take step.singles.length) ::
      collect rest (answers.drop step.singles.length)
  | (_, false) :: rest, answer :: answers => answer :: collect rest answers
  | _, _ => []

theorem run_expand (w : Walk) (marked : List (Step × Bool)) :
    collect marked (w.run (expand marked)).1 = (w.run (marked.map Prod.fst)).1 ∧
      (w.run (expand marked)).2 = (w.run (marked.map Prod.fst)).2 := by
  induction marked generalizing w with
  | nil => exact ⟨rfl, rfl⟩
  | cons pair rest ih =>
    obtain ⟨step, mark⟩ := pair
    obtain ⟨hanswers, hleft⟩ := ih (w.perform step).2
    rw [List.map_cons, run_cons]
    cases mark with
    | false =>
      rw [expand, run_cons, collect, hanswers, hleft]
      exact ⟨rfl, rfl⟩
    | true =>
      -- There is one answer to each single step, so the first answers belong to this step.
      have hlength := length_run w step.singles
      rw [expand, run_append, collect, List.take_left' hlength, List.drop_left' hlength,
        snd_run_singles, gather_run_singles, hanswers, hleft]
      exact ⟨rfl, rfl⟩

/-! ## Steps past the other end -/

theorem getElem?_facing_eq_none (e : End) (h : w.count ≤ k) : (w.facing e)[k]? = none := by
  have hlength := length_toList w
  cases e <;> simp only [facing, List.getElem?_eq_none_iff, List.length_reverse] <;> omega

theorem count_perform_of_le (hend : step.end? = some e) (h : w.count ≤ step.demand e) :
    (w.perform step).2.count = 0 := by
  rw [snd_perform_of_end w hend, count_move]
  omega

/-- **Long steps are single steps in a row.** Any steps of a run may be replaced by single steps:
the answers of these gather to the answer there was, all other answers are the same, and so is
what is left. A step past the other end leaves nothing, and only `take` gives the codes it met. -/
theorem long_steps_refined :
    (∀ marked : List (Step × Bool),
      collect marked (start.run (expand marked)).1 = (start.run (marked.map Prod.fst)).1 ∧
      (start.run (expand marked)).2 = (start.run (marked.map Prod.fst)).2) ∧
    ∀ before k, let left := (start.run before).2
      left.count ≤ k →
      ((left.perform (.nth k)).1 = .code none ∧ (left.perform (.nth k)).2.count = 0) ∧
      ((left.perform (.nthBack k)).1 = .code none ∧ (left.perform (.nthBack k)).2.count = 0) ∧
      (left.perform (.take k)).1 = .codes left.toList ∧ (left.perform (.take k)).2.count = 0 := by
  refine ⟨run_expand start, ?_⟩
  intro before k left h
  refine ⟨⟨?_, ?_⟩, ⟨?_, ?_⟩, ?_, ?_⟩
  · rw [answer_nth, getElem?_facing_eq_none .front h]
  · exact count_perform_of_le (e := .front) rfl (Nat.le_succ_of_le h)
  · rw [answer_nthBack, getElem?_facing_eq_none .back h]
  · exact count_perform_of_le (e := .back) rfl (Nat.le_succ_of_le h)
  · change Answer.codes (left.take k).1 = _
    rw [fst_take, List.take_of_length_le]
    rwa [length_toList]
  · exact count_perform_of_le (e := .front) rfl h

/-- Five codes are left, and passing over five of them leaves none to give. -/
theorem nth_past_five_left :
    (start.run [.take 60, .nthBack 99]).2.count = 5 ∧
    ((start.run [.take 60, .nthBack 99]).2.perform (.nth 5)).1 = .code none ∧
    ((start.run [.take 60, .nthBack 99]).2.perform (.nth 5)).2.count = 0 := by
  have hcount : (start.run [.take 60, .nthBack 99]).2.count = 5 := by decide
  exact ⟨hcount, (long_steps_refined.2 _ 5 (Nat.le_of_eq hcount)).1⟩

end ScriptLexicon.Walk
