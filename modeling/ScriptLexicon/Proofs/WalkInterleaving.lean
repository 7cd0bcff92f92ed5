import Mathlib.Data.List.Basic
import ScriptLexicon.Proofs.Walk

/-!
# Steps at both ends

As long as enough codes are left for all of them, steps at the front and steps at the back do not
get in each other's way. However they are mixed, each end gives the answers it gives alone, and
the same codes are left.
-/

namespace ScriptLexicon.Walk

variable {v w : Walk} {e : End} {step : Step} {steps fs bs : List Step}

/-! ## The answers at one end -/

/-- How many codes steps take from an end, if that many are left. -/
def demands (e : End) : List Step → Nat
  | [] => 0
  | step :: steps => step.demand e + demands e steps

/-- The answers to the steps at an end, in their order. -/
def answersAt (e : End) (steps : List Step) (answers : List Answer) : List Answer :=
  ((steps.zip answers).filter fun p => p.1.end? = some e).map Prod.snd

theorem answersAt_cons (answer : Answer) (answers : List Answer) :
    answersAt e (step :: steps) (answer :: answers) =
      if step.end? = some e then answer :: answersAt e steps answers
      else answersAt e steps answers := by
  simp only [answersAt, List.zip_cons_cons, List.filter_cons, decide_eq_true_eq]
  split <;> rfl

theorem demands_filter (e : End) (steps : List Step) :
    demands e (steps.filter (·.end? = some e)) = demands e steps := by
  induction steps with
  | nil => rfl
  | cons step steps ih =>
    rw [List.filter_cons, demands]
    split
    · rw [demands, ih]
    · rename_i h
      rw [ih, demand_eq_zero (by simpa using h), Nat.zero_add]

theorem answer_congr (h : step.end? = some e) (htaken : v.taken e step = w.taken e step) :
    (v.perform step).1 = (w.perform step).1 := by
  rw [answer_perform, answer_perform]
  cases step with
  | next | nth k | take k | nextBack | nthBack k =>
    obtain rfl := Option.some.inj h
    simp only [Step.answer, htaken]
  | sizeHint => cases h

/-- Steps at one end see no further than the codes they demand. -/
theorem run_congr (hsteps : ∀ step ∈ steps, step.end? = some e)
    (h : (v.facing e).take (demands e steps) = (w.facing e).take (demands e steps)) :
    (v.run steps).1 = (w.run steps).1 := by
  induction steps generalizing v w with
  | nil => rfl
  | cons step steps ih =>
    obtain ⟨hstep, hrest⟩ := List.forall_mem_cons.mp hsteps
    rw [demands] at h
    have htaken : v.taken e step = w.taken e step := by
      have hfirst := congrArg (List.take (step.demand e)) h
      simpa [taken, List.take_take] using hfirst
    -- The first step leaves the later ones equally much to see.
    have hafter : ((v.perform step).2.facing e).take (demands e steps) =
        ((w.perform step).2.facing e).take (demands e steps) := by
      have hlater := congrArg (List.drop (step.demand e)) h
      simpa [facing_perform _ hstep, List.drop_take] using hlater
    rw [run_cons, run_cons, answer_congr hstep htaken, ih hrest hafter]

/-! ## Where the ends are -/

theorem ends_perform (w : Walk) (step : Step)
    (h : step.demand .front + step.demand .back ≤ w.count) :
    (w.perform step).2.front = w.front + step.demand .front ∧
      (w.perform step).2.back = w.back - step.demand .back := by
  have hle := w.front_le_back
  rw [count] at h
  rw [snd_perform w step .front]
  simp only [End.other, move, front_retreat, back_retreat, front_advance, back_advance]
  omega

theorem ends_run (h : demands .front steps + demands .back steps ≤ w.count) :
    (w.run steps).2.front = w.front + demands .front steps ∧
      (w.run steps).2.back = w.back - demands .back steps := by
  induction steps generalizing w with
  | nil => exact ⟨rfl, rfl⟩
  | cons step steps ih =>
    rw [demands, demands] at h
    have hcount := count_perform w step
    obtain ⟨hfront, hback⟩ := ends_perform w step (by omega)
    obtain ⟨hfront', hback'⟩ := ih (w := (w.perform step).2) (by omega)
    rw [run_cons, demands, demands, hfront', hback', hfront, hback]
    omega

/-! ## Each end on its own -/

theorem answersAt_run (e : End) (h : demands .front steps + demands .back steps ≤ w.count) :
    answersAt e steps (w.run steps).1 = (w.run (steps.filter (·.end? = some e))).1 := by
  induction steps generalizing w with
  | nil => rfl
  | cons step steps ih =>
    rw [demands, demands] at h
    have hcount := count_perform w step
    have hrest := ih (w := (w.perform step).2) (by omega)
    rw [run_cons, answersAt_cons, hrest]
    by_cases hstep : step.end? = some e
    · rw [if_pos hstep, List.filter_cons_of_pos (by simpa using hstep), run_cons]
    · rw [if_neg hstep, List.filter_cons_of_neg (by simpa using hstep)]
      apply run_congr (e := e)
      · intro other hother
        simpa using (List.mem_filter.mp hother).2
      · -- The step takes nothing that the steps at this end will ask for.
        have hroom : demands e steps ≤ w.count - step.demand e.other := by
          cases e <;> simp only [End.other] <;> omega
        rw [facing_perform_of_ne w hstep, demands_filter, List.take_take, Nat.min_eq_left hroom]

theorem answer_ne_none (h : step.demand .front + step.demand .back ≤ w.count) :
    (w.perform step).1 ≠ .code none := by
  have hlength := length_toList w
  rw [answer_perform]
  cases step with
  | next | nth k | nextBack | nthBack k =>
    simp only [Step.answer, taken, facing, Step.demand] at h ⊢
    simp only [ne_eq, Answer.code.injEq, List.getElem?_eq_none_iff, List.length_take,
      List.length_reverse]
    omega
  | take k | sizeHint => simp [Step.answer]

theorem answer_ne_none_of_mem_run (h : demands .front steps + demands .back steps ≤ w.count) :
    ∀ answer ∈ (w.run steps).1, answer ≠ .code none := by
  induction steps generalizing w with
  | nil => simp [run]
  | cons step steps ih =>
    rw [demands, demands] at h
    have hcount := count_perform w step
    rw [run_cons, List.forall_mem_cons]
    exact ⟨answer_ne_none (by omega), ih (by omega)⟩

/-! ## Interleavings -/

/-- The third list mixes the other two and keeps the order of each. -/
inductive Interleaved {α : Type} : List α → List α → List α → Prop
  | nil : Interleaved [] [] []
  | left {x : α} {xs ys zs : List α} : Interleaved xs ys zs → Interleaved (x :: xs) ys (x :: zs)
  | right {y : α} {xs ys zs : List α} : Interleaved xs ys zs → Interleaved xs (y :: ys) (y :: zs)

theorem interleaved_append {α : Type} (xs ys : List α) : Interleaved xs ys (xs ++ ys) := by
  induction xs with
  | nil =>
    induction ys with
    | nil => exact .nil
    | cons y ys ih => exact .right ih
  | cons x xs ih => exact .left ih

theorem Interleaved.filter_eq (h : Interleaved fs bs steps)
    (hfs : ∀ f ∈ fs, f.end? = some .front) (hbs : ∀ b ∈ bs, b.end? = some .back) :
    steps.filter (·.end? = some .front) = fs ∧ steps.filter (·.end? = some .back) = bs := by
  induction h with
  | nil => exact ⟨rfl, rfl⟩
  | left _ ih =>
    obtain ⟨hf, hfs⟩ := List.forall_mem_cons.mp hfs
    obtain ⟨hfront, hback⟩ := ih hfs hbs
    simp [hf, hfront, hback]
  | right _ ih =>
    obtain ⟨hb, hbs⟩ := List.forall_mem_cons.mp hbs
    obtain ⟨hfront, hback⟩ := ih hfs hbs
    simp [hb, hfront, hback]

theorem Interleaved.demands_eq (h : Interleaved fs bs steps)
    (hfs : ∀ f ∈ fs, f.end? = some .front) (hbs : ∀ b ∈ bs, b.end? = some .back) :
    demands .front steps = demands .front fs ∧ demands .back steps = demands .back bs := by
  obtain ⟨hfront, hback⟩ := h.filter_eq hfs hbs
  rw [← demands_filter, hfront, ← demands_filter .back steps, hback]
  exact ⟨rfl, rfl⟩

theorem Interleaved.demands_le (h : Interleaved fs bs steps)
    (hfs : ∀ f ∈ fs, f.end? = some .front) (hbs : ∀ b ∈ bs, b.end? = some .back)
    (hfit : demands .front fs + demands .back bs ≤ 165) :
    demands .front steps + demands .back steps ≤ start.count := by
  obtain ⟨hfront, hback⟩ := h.demands_eq hfs hbs
  rw [hfront, hback]
  exact hfit

theorem Interleaved.ends_run_start (h : Interleaved fs bs steps)
    (hfs : ∀ f ∈ fs, f.end? = some .front) (hbs : ∀ b ∈ bs, b.end? = some .back)
    (hfit : demands .front fs + demands .back bs ≤ 165) :
    (start.run steps).2.front = demands .front fs ∧
      (start.run steps).2.back = 165 - demands .back bs := by
  obtain ⟨hfront, hback⟩ := h.demands_eq hfs hbs
  obtain ⟨hends, hends'⟩ := ends_run (h.demands_le hfs hbs hfit)
  rw [hends, hends', hfront, hback]
  exact ⟨Nat.zero_add _, rfl⟩

/-- **The order of the two ends does not matter** while enough codes are left for both. However
steps at the front and steps at the back are mixed, each end answers as if it were alone, no
answer is missing, and what is left is the same. -/
theorem interleavings_agree (hfs : ∀ f ∈ fs, f.end? = some .front)
    (hbs : ∀ b ∈ bs, b.end? = some .back) (hfit : demands .front fs + demands .back bs ≤ 165)
    (h : Interleaved fs bs steps) :
    answersAt .front steps (start.run steps).1 = (start.run fs).1 ∧
    answersAt .back steps (start.run steps).1 = (start.run bs).1 ∧
    (start.run steps).2 = (start.run (fs ++ bs)).2 ∧
    (start.run steps).2.count = 165 - (demands .front fs + demands .back bs) ∧
    ∀ answer ∈ (start.run steps).1, answer ≠ .code none := by
  obtain ⟨hfilter, hfilter'⟩ := h.filter_eq hfs hbs
  obtain ⟨hfront, hback⟩ := h.ends_run_start hfs hbs hfit
  obtain ⟨hfront', hback'⟩ := (interleaved_append fs bs).ends_run_start hfs hbs hfit
  have hroom := h.demands_le hfs hbs hfit
  refine ⟨?_, ?_, ?_, ?_, answer_ne_none_of_mem_run hroom⟩
  · rw [answersAt_run .front hroom, hfilter]
  · rw [answersAt_run .back hroom, hfilter']
  · exact eq_of_ends (hfront.trans hfront'.symm) (hback.trans hback'.symm)
  · rw [count, hfront, hback]
    omega

/-- Five steps that take all 165 codes, the two at the back among those at the front. -/
theorem interleaving_of_all_codes :
    let fs : List Step := [.next, .take 100, .nth 2]
    let bs : List Step := [.nextBack, .nthBack 59]
    let mixed : List Step := [.nextBack, .next, .take 100, .nthBack 59, .nth 2]
    demands .front fs + demands .back bs = 165 ∧ Interleaved fs bs mixed ∧
    answersAt .front mixed (start.run mixed).1 = (start.run fs).1 ∧
    answersAt .back mixed (start.run mixed).1 = (start.run bs).1 ∧
    (start.run mixed).2.count = 0 := by
  intro fs bs mixed
  have hmixed : Interleaved fs bs mixed := .right (.left (.left (.right (.left .nil))))
  obtain ⟨hfront, hback, -, hcount, -⟩ :=
    interleavings_agree (by decide) (by decide) (by decide) hmixed
  exact ⟨rfl, hmixed, hfront, hback, hcount⟩

-- One code more, and the last code goes to the end that asks first.
example :
    (start.run [.nth 164, .nextBack]).1 = [.code (some Token.last), .code none] ∧
    (start.run [.nextBack, .nth 164]).1 = [.code (some Token.last), .code none] := by
  decide

end ScriptLexicon.Walk
