import Mathlib.Data.List.Induction
import ScriptLexicon.Proofs.Session

/-!
# What a session remembers

A session remembers the mode of its catalog and nothing else. Steps that ask for no mode can be
left out, failing ones too, and the records of all other steps stay as they are.
-/

namespace ScriptLexicon.Session

variable {k : Catalog} {step : Step} {steps before other : List Step} {marks : List Bool}

/-! ## Leaving steps out -/

/-- What is left of a list when the members marked `false` are left out. -/
def kept {α : Type} : List Bool → List α → List α
  | [], xs => xs
  | _, [] => []
  | true :: marks, x :: xs => x :: kept marks xs
  | false :: marks, _ :: xs => kept marks xs

theorem perform_of_requested?_eq_none (k : Catalog) (h : step.requested? = none) :
    (perform k step).1 = k := by
  have hnaming := naming_perform k step
  rw [h, Option.getD_none] at hnaming
  exact congrArg Catalog.mk hnaming

theorem runFrom_kept (k : Catalog)
    (h : ∀ p ∈ marks.zip steps, p.1 = false → p.2.requested? = none) :
    runFrom k (kept marks steps) = kept marks (runFrom k steps) := by
  induction marks generalizing k steps with
  | nil => simp only [kept]
  | cons mark marks ih =>
    cases steps with
    | nil => simp only [kept, runFrom]
    | cons step steps =>
      rw [List.zip_cons_cons, List.forall_mem_cons] at h
      obtain ⟨hstep, hrest⟩ := h
      cases mark with
      | true => rw [kept, runFrom_cons, runFrom_cons, kept, ih _ hrest]
      | false =>
        -- The step leaves the catalog alone, so the rest runs on the same one without it.
        rw [kept, runFrom_cons, kept, perform_of_requested?_eq_none k (hstep rfl), ih k hrest]

/-! ## What is left of a history -/

/-- The mode after steps, as the last record shows it. -/
def finalMode (steps : List Step) : Naming :=
  ((run steps).getLast?.map Record.mode).getD .compact

theorem catalogAfter_eq (steps : List Step) : catalogAfter default steps = ⟨finalMode steps⟩ := by
  cases steps using List.reverseRecOn with
  | nil => rfl
  | append_singleton steps step =>
    have hlast : (run (steps ++ [step])).getLast? =
        some (recordOf (catalogAfter default steps) step) := by
      rw [run, runFrom_append, runFrom_cons, List.getLast?_append]
      rfl
    rw [finalMode, hlast, catalogAfter, List.foldl_append]
    rfl

theorem drop_run_append (before after : List Step) :
    (run (before ++ after)).drop before.length = runFrom ⟨finalMode before⟩ after := by
  rw [run, runFrom_append, List.drop_left' (length_runFrom _ _), catalogAfter_eq]

theorem finalMode_eq_iff :
    finalMode before = finalMode other ↔
      ∀ after, (run (before ++ after)).drop before.length =
        (run (other ++ after)).drop other.length := by
  simp only [drop_run_append]
  constructor
  · intro h after
    rw [h]
  · intro h
    -- Asking for the mode tells two modes apart.
    have hask := h [.askMode]
    simpa [runFrom, perform] using hask

/-- **A session remembers its mode and nothing else.** Steps that ask for no mode leave no trace:
without any of them the other steps have the records they had. Histories that end in the same mode
go on alike whatever comes next, and those that end in different modes do not. -/
theorem uses_leave_no_trace :
    (∀ marks steps, (∀ p ∈ marks.zip steps, p.1 = false → p.2.requested? = none) →
      run (kept marks steps) = kept marks (run steps)) ∧
    ∀ before other, finalMode before = finalMode other ↔
      ∀ after, (run (before ++ after)).drop before.length =
        (run (other ++ after)).drop other.length := by
  refine ⟨?_, ?_⟩
  · intro marks steps h
    exact runFrom_kept default h
  · intro before other
    exact finalMode_eq_iff

/-- Refused names and a second binding are left out, and the rest goes on as before. So it does
after another history that ends in the same mode. -/
theorem same_records_without_refusals :
    let marks := [true, false, false, true, false]
    let steps : List Step :=
      [.bindBySwitches true false, .name ⟨163⟩, .dump [⟨21⟩, ⟨-7⟩], .askMode, .rebind, .name ⟨5⟩]
    (∀ p ∈ marks.zip steps, p.1 = false → p.2.requested? = none) ∧
    run [.bindBySwitches true false, .askMode, .name ⟨5⟩] = kept marks (run steps) ∧
    finalMode steps = finalMode [.reset, .bind .verbose] ∧
    ∀ after, (run (steps ++ after)).drop 6 = (run ([.reset, .bind .verbose] ++ after)).drop 2 := by
  intro marks steps
  have hmarks : ∀ p ∈ marks.zip steps, p.1 = false → p.2.requested? = none := by decide
  have hmode : finalMode steps = finalMode [.reset, .bind .verbose] := rfl
  exact ⟨hmarks, uses_leave_no_trace.1 marks steps hmarks, hmode,
    (uses_leave_no_trace.2 _ _).mp hmode⟩

end ScriptLexicon.Session
