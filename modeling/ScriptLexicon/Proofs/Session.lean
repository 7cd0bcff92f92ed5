import ScriptLexicon.Proofs.Catalog
import ScriptLexicon.Session

/-!
# Turns of a session

A session is a row of turns, each run in the mode the one before it left. The mode after a turn
is the one requested last: steps that only use the catalog leave it alone, failing ones too.
-/

namespace ScriptLexicon.Session

variable {k : Catalog} {step : Step} {steps : List Step}

/-! ## One step -/

/-- The mode a step asks for. Steps that only use the catalog ask for none. -/
def Step.requested? : Step → Option Naming
  | .reset => some .compact
  | .bind naming => some naming
  | .bindBySwitches printTrees printCode =>
    some (if printTrees ∨ printCode then .verbose else .compact)
  | .askMode | .rebind | .name _ | .dump _ => none

theorem ofSwitches_eq (printTrees printCode : Bool) :
    Naming.ofSwitches printTrees printCode =
      if printTrees ∨ printCode then .verbose else .compact := by
  simp only [Naming.ofSwitches, Bool.or_eq_true]

theorem naming_perform (k : Catalog) (step : Step) :
    (perform k step).1.naming = step.requested?.getD k.naming := by
  cases step with
  | bindBySwitches printTrees printCode => exact ofSwitches_eq printTrees printCode
  | reset | bind naming | askMode | rebind | name code | dump codes => rfl

/-- The record of a step run on a catalog. -/
def recordOf (k : Catalog) (step : Step) : Record :=
  ⟨(perform k step).2.result, (perform k step).1.naming, (perform k step).2.events⟩

/-! ## Whole runs -/

def catalogAfter (k : Catalog) (steps : List Step) : Catalog :=
  steps.foldl (fun k step => (perform k step).1) k

theorem runFrom_cons (k : Catalog) (step : Step) (steps : List Step) :
    runFrom k (step :: steps) = recordOf k step :: runFrom (perform k step).1 steps := rfl

theorem length_runFrom (k : Catalog) (steps : List Step) :
    (runFrom k steps).length = steps.length := by
  induction steps generalizing k with
  | nil => rfl
  | cons step steps ih => rw [runFrom_cons, List.length_cons, ih, List.length_cons]

theorem runFrom_append (k : Catalog) (steps more : List Step) :
    runFrom k (steps ++ more) = runFrom k steps ++ runFrom (catalogAfter k steps) more := by
  induction steps generalizing k with
  | nil => rfl
  | cons step steps ih =>
    rw [List.cons_append, runFrom_cons, runFrom_cons, List.cons_append, ih]
    rfl

theorem getElem?_run (before : List Step) (step : Step) (after : List Step) :
    (run (before ++ step :: after))[before.length]? =
      some (recordOf (catalogAfter default before) step) := by
  rw [run, runFrom_append, runFrom_cons,
    List.getElem?_append_right (Nat.le_of_eq (length_runFrom default before)), length_runFrom,
    Nat.sub_self, List.getElem?_cons_zero]

/-- The mode requested last, or else the compact mode, in which a session starts. -/
def latestMode (steps : List Step) : Naming :=
  (steps.filterMap Step.requested?).getLast?.getD .compact

theorem naming_catalogAfter (k : Catalog) (steps : List Step) :
    (catalogAfter k steps).naming =
      (steps.filterMap Step.requested?).getLast?.getD k.naming := by
  induction steps generalizing k with
  | nil => rfl
  | cons step steps ih =>
    have hrest : (catalogAfter k (step :: steps)).naming =
        (steps.filterMap Step.requested?).getLast?.getD (perform k step).1.naming := ih _
    rw [hrest, naming_perform]
    cases hstep : step.requested? with
    | none => rw [List.filterMap_cons_none hstep, Option.getD_none]
    | some naming =>
      rw [List.filterMap_cons_some hstep, List.getLast?_cons, Option.getD_some, Option.getD_some]

/-! ## Turns -/

/-- A step of a session, with the mode it was run in and the record it left. -/
structure Turn where
  step : Step
  before : Naming
  record : Record

/-- The turns of steps and their records. The mode before a turn is the one the last turn left. -/
def turnsFrom (before : Naming) : List Step → List Record → List Turn
  | step :: steps, record :: records =>
    ⟨step, before, record⟩ :: turnsFrom record.mode steps records
  | _, _ => []

def turns (steps : List Step) : List Turn := turnsFrom .compact steps (run steps)

def turnOf (k : Catalog) (step : Step) : Turn := ⟨step, k.naming, recordOf k step⟩

theorem turnsFrom_cons (k : Catalog) (step : Step) (steps : List Step) :
    turnsFrom k.naming (step :: steps) (runFrom k (step :: steps)) =
      turnOf k step ::
        turnsFrom (perform k step).1.naming steps (runFrom (perform k step).1 steps) := rfl

theorem map_step_turnsFrom (k : Catalog) (steps : List Step) :
    (turnsFrom k.naming steps (runFrom k steps)).map Turn.step = steps := by
  induction steps generalizing k with
  | nil => rfl
  | cons step steps ih => rw [turnsFrom_cons, List.map_cons, ih]; rfl

theorem map_record_turnsFrom (k : Catalog) (steps : List Step) :
    (turnsFrom k.naming steps (runFrom k steps)).map Turn.record = runFrom k steps := by
  induction steps generalizing k with
  | nil => rfl
  | cons step steps ih => rw [turnsFrom_cons, List.map_cons, ih]; rfl

theorem eq_turnOf_of_mem_turnsFrom {t : Turn}
    (h : t ∈ turnsFrom k.naming steps (runFrom k steps)) : t = turnOf ⟨t.before⟩ t.step := by
  induction steps generalizing k with
  | nil => simp [turnsFrom] at h
  | cons step steps ih =>
    rw [turnsFrom_cons, List.mem_cons] at h
    rcases h with rfl | h
    · rfl
    · exact ih h

theorem map_step_turns (steps : List Step) : (turns steps).map Turn.step = steps :=
  map_step_turnsFrom default steps

theorem map_record_turns (steps : List Step) : (turns steps).map Turn.record = run steps :=
  map_record_turnsFrom default steps

/-- A turn is its step, run on a catalog of the mode before it. -/
theorem eq_turnOf_of_mem_turns {t : Turn} (h : t ∈ turns steps) : t = turnOf ⟨t.before⟩ t.step :=
  eq_turnOf_of_mem_turnsFrom (k := default) h

/-! ## The mode of a session -/

theorem mode_getElem?_run (before : List Step) (step : Step) (after : List Step) :
    (run (before ++ step :: after))[before.length]?.map Record.mode =
      some (latestMode (before ++ [step])) := by
  have hmode : (recordOf (catalogAfter default before) step).mode =
      (catalogAfter default (before ++ [step])).naming := by
    rw [catalogAfter, catalogAfter, List.foldl_append]
    rfl
  rw [getElem?_run, Option.map_some, hmode, naming_catalogAfter]
  rfl

theorem mode_eq_before (k : Catalog) (step : Step) (h : step.requested? = none) :
    (turnOf k step).record.mode = (turnOf k step).before := by
  change (perform k step).1.naming = k.naming
  rw [naming_perform, h, Option.getD_none]

theorem answer_rebind (k : Catalog) :
    (recordOf k .rebind).answer = .equalities (k.naming = .compact) true := by
  have hcopy : k = default ↔ k.naming = .compact := by
    obtain ⟨naming⟩ := k
    exact Catalog.mk.injEq naming .compact ▸ Iff.rfl
  change Answer.equalities (k = default) (k = k) = _
  simp only [hcopy, decide_true]

/-- **The mode is the one requested last**, after every step of every session. A step that asks
for none leaves the mode alone, and questions about the mode are answered with it. -/
theorem mode_eq_latest_request :
    (∀ before step after, (run (before ++ step :: after))[before.length]?.map Record.mode =
      some (latestMode (before ++ [step]))) ∧
    (∀ steps, (turns steps).map Turn.step = steps ∧ (turns steps).map Turn.record = run steps) ∧
    ∀ steps, ∀ t ∈ turns steps,
      (t.step.requested? = none → t.record.mode = t.before) ∧
      (t.step = .askMode → t.record.answer = .mode t.record.mode) ∧
      (t.step = .rebind → t.record.answer = .equalities (t.record.mode = .compact) true) := by
  refine ⟨mode_getElem?_run, ?_, ?_⟩
  · intro steps
    exact ⟨map_step_turns steps, map_record_turns steps⟩
  · intro steps ⟨step, before, record⟩ ht
    obtain rfl : record = recordOf ⟨before⟩ step :=
      congrArg Turn.record (eq_turnOf_of_mem_turns ht)
    refine ⟨mode_eq_before ⟨before⟩ step, ?_, ?_⟩
    · intro (hstep : step = .askMode)
      subst hstep
      rfl
    · intro (hstep : step = .rebind)
      subst hstep
      exact answer_rebind ⟨before⟩

/-- Failing to name a code leaves the mode as it was requested. -/
theorem mode_after_refused_name :
    turnOf ⟨.verbose⟩ (.name ⟨163⟩) ∈ turns [.bindBySwitches false true, .name ⟨163⟩] ∧
    (turnOf ⟨.verbose⟩ (.name ⟨163⟩)).record.answer = .text (.error ⟨⟨163⟩⟩) ∧
    (turnOf ⟨.verbose⟩ (.name ⟨163⟩)).record.mode = .verbose := by
  have hmem : turnOf ⟨.verbose⟩ (.name ⟨163⟩) ∈
      turns [.bindBySwitches false true, .name ⟨163⟩] :=
    List.mem_cons_of_mem _ List.mem_cons_self
  have hrefused : (Catalog.name ⟨.verbose⟩ ⟨163⟩).result = .error ⟨⟨163⟩⟩ := by
    rw [Catalog.result_name_verbose, Code.name_eq_error_self_iff]
    decide
  exact ⟨hmem, congrArg Answer.text hrefused, (mode_eq_latest_request.2.2 _ _ hmem).1 rfl⟩

end ScriptLexicon.Session
