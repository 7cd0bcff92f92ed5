import ScriptLexicon.Proofs.Session

/-!
# Events of a session

The events of a session are accounted for turn by turn. Every catalog that is bound is reported
with its mode, every code that was named in vain with its value, and nothing else is reported.
-/

namespace ScriptLexicon

/-- Whether an event is logged at a level under a message. -/
def Event.reads (level message : String) (e : Event) : Bool :=
  e.level = level ∧ e.message = message

abbrev Event.isBinding : Event → Bool := Event.reads "DEBUG" "token catalog bound"

abbrev Event.isRefusal : Event → Bool := Event.reads "TRACE" "no canonical name for token code"

namespace Session

variable {k : Catalog} {step : Step} {steps : List Step} {t : Turn}

/-! ## One turn -/

def Step.binds : Step → Bool
  | .bind _ | .bindBySwitches _ _ | .rebind => true
  | .reset | .askMode | .name _ | .dump _ => false

def Step.names : Step → Bool
  | .name _ | .dump _ => true
  | .reset | .bind _ | .bindBySwitches _ _ | .askMode | .rebind => false

def Answer.unknown? : Answer → Option UnknownCode
  | .text (.error e) => some e
  | _ => none

/-- The code a turn should have named and could not. -/
def Turn.unknown? (t : Turn) : Option UnknownCode :=
  if t.step.names then t.record.answer.unknown? else none

def Turn.binding? (t : Turn) : Option Event :=
  if t.step.binds then some (.bound t.record.mode) else none

def Turn.refusal? (t : Turn) : Option Event := t.unknown?.map fun e => .unnamed e.code

theorem refusals_eq_unknown? (r : Except UnknownCode String) :
    Catalog.refusals r = ((Answer.text r).unknown?.map fun e => Event.unnamed e.code).toList := by
  cases r <;> rfl

/-- A turn reports its binding, or the code it could not name. -/
theorem events_turnOf (k : Catalog) (step : Step) :
    (turnOf k step).record.events =
      (turnOf k step).binding?.toList ++ (turnOf k step).refusal?.toList := by
  cases step with
  | reset | bind naming | bindBySwitches printTrees printCode | askMode | rebind => rfl
  | name code => exact (Catalog.events_name k code).trans (refusals_eq_unknown? _)
  | dump codes => exact (Catalog.events_dump k codes).trans (refusals_eq_unknown? _)

theorem binding?_or_refusal?_eq_none (t : Turn) : t.binding? = none ∨ t.refusal? = none := by
  obtain ⟨step, before, record⟩ := t
  cases step with
  | bind naming | bindBySwitches printTrees printCode | rebind => exact Or.inr rfl
  | reset | askMode | name code | dump codes => exact Or.inl rfl

/-- A compact catalog has a name for every code. -/
theorem unknown?_of_compact (k : Catalog) (step : Step) (h : k.naming = .compact) :
    (turnOf k step).unknown? = none := by
  obtain ⟨naming⟩ := k
  obtain rfl : naming = .compact := h
  cases step with
  | reset | bind naming | bindBySwitches printTrees printCode | askMode | rebind => rfl
  | name code => rfl
  | dump codes =>
    change (Answer.text (Catalog.dump ⟨.compact⟩ codes).result).unknown? = none
    rw [Catalog.result_dump_compact]
    rfl

/-! ## All turns -/

/-- The events of a session in order, each with the turn that reported it. -/
def emissions (steps : List Step) : List (Turn × Event) :=
  (turns steps).flatMap fun t => t.record.events.map fun e => (t, e)

theorem map_event_emissions (steps : List Step) :
    (emissions steps).map Prod.snd = (run steps).flatMap Record.events := by
  rw [emissions, List.map_flatMap, ← map_record_turns, List.flatMap_map]
  simp only [List.map_map, Function.comp_def, List.map_id']

theorem events_of_mem_turns (h : t ∈ turns steps) :
    t.record.events = t.binding?.toList ++ t.refusal?.toList := by
  rw [eq_turnOf_of_mem_turns h]
  exact events_turnOf _ _

theorem kind_of_mem_binding? {e : Event} (h : e ∈ t.binding?) :
    e.isBinding = true ∧ e.isRefusal = false := by
  unfold Turn.binding? at h
  split at h
  · obtain rfl := Option.some.inj h
    exact ⟨rfl, rfl⟩
  · simp at h

theorem kind_of_mem_refusal? {e : Event} (h : e ∈ t.refusal?) :
    e.isRefusal = true ∧ e.isBinding = false := by
  obtain ⟨u, -, rfl⟩ := Option.map_eq_some_iff.mp h
  exact ⟨rfl, rfl⟩

theorem filter_isBinding (h : t ∈ turns steps) :
    t.record.events.filter Event.isBinding = t.binding?.toList := by
  rw [events_of_mem_turns h, List.filter_append, List.filter_eq_self.mpr,
    List.filter_eq_nil_iff.mpr, List.append_nil]
  · intro e he
    rw [(kind_of_mem_refusal? (Option.mem_toList.mp he)).2]
    exact Bool.false_ne_true
  · intro e he
    exact (kind_of_mem_binding? (Option.mem_toList.mp he)).1

theorem filter_isRefusal (h : t ∈ turns steps) :
    t.record.events.filter Event.isRefusal = t.refusal?.toList := by
  rw [events_of_mem_turns h, List.filter_append, List.filter_eq_nil_iff.mpr,
    List.filter_eq_self.mpr, List.nil_append]
  · intro e he
    exact (kind_of_mem_refusal? (Option.mem_toList.mp he)).1
  · intro e he
    rw [(kind_of_mem_binding? (Option.mem_toList.mp he)).2]
    exact Bool.false_ne_true

/-- Events of one kind are picked from a session turn by turn. -/
theorem filter_emissions {keep : Event → Bool} {pick : Turn → Option Event}
    (h : ∀ t ∈ turns steps, t.record.events.filter keep = (pick t).toList) :
    (emissions steps).filter (fun p => keep p.2) =
      (turns steps).filterMap fun t => (pick t).map fun e => (t, e) := by
  rw [emissions, List.filter_flatMap, List.filterMap_eq_flatMap_toList]
  apply List.flatMap_congr
  intro t ht
  rw [Option.toList_map, ← h t ht, List.filter_map]
  rfl

theorem bindings_eq (steps : List Step) :
    ((turns steps).filterMap fun t => t.binding?.map fun e => (t, e)) =
      ((turns steps).filter (·.step.binds)).map fun t => (t, .bound t.record.mode) := by
  rw [← List.filterMap_eq_map, List.filterMap_filter]
  apply List.filterMap_congr
  intro t _
  unfold Turn.binding?
  split <;> rfl

theorem length_events (h : t ∈ turns steps) : t.record.events.length ≤ 1 := by
  rw [events_of_mem_turns h, List.length_append]
  rcases binding?_or_refusal?_eq_none t with hnone | hnone
  · rw [hnone]
    cases t.refusal? <;> simp
  · rw [hnone]
    cases t.binding? <;> simp

/-- Turns that have nothing to report. -/
def Turn.Quiet (t : Turn) : Prop :=
  t.step = .reset ∨ t.step = .askMode ∨ ∃ text, t.record.answer = .text (.ok text)

theorem binding?_refusal?_of_quiet (k : Catalog) (step : Step) (h : (turnOf k step).Quiet) :
    (turnOf k step).binding? = none ∧ (turnOf k step).refusal? = none := by
  rcases h with h | h | ⟨text, h⟩
  · obtain rfl : step = .reset := h
    exact ⟨rfl, rfl⟩
  · obtain rfl : step = .askMode := h
    exact ⟨rfl, rfl⟩
  · have hunknown : (turnOf k step).unknown? = none := by
      rw [Turn.unknown?, h]
      exact ite_self none
    refine ⟨?_, by rw [Turn.refusal?, hunknown, Option.map_none]⟩
    -- Only steps that name codes answer with a text, and they bind nothing.
    cases step with
    | name code | dump codes => rfl
    | reset | bind naming | bindBySwitches printTrees printCode | askMode | rebind => cases h

theorem events_eq_nil_of_quiet (h : t ∈ turns steps) (hquiet : t.Quiet) : t.record.events = [] := by
  rw [eq_turnOf_of_mem_turns h] at hquiet ⊢
  obtain ⟨hbinding, hrefusal⟩ := binding?_refusal?_of_quiet _ _ hquiet
  rw [events_turnOf, hbinding, hrefusal]
  rfl

theorem kind_of_mem_events {e : Event} (h : t ∈ turns steps) (he : e ∈ t.record.events) :
    e.isBinding = true ∨ e.isRefusal = true := by
  rw [events_of_mem_turns h, List.mem_append, Option.mem_toList, Option.mem_toList] at he
  rcases he with he | he
  · exact Or.inl (kind_of_mem_binding? he).1
  · exact Or.inr (kind_of_mem_refusal? he).1

theorem level_of_compact {e : Event} (h : t ∈ turns steps) (hmode : t.before = .compact)
    (he : e ∈ t.record.events) : e.level ≠ "TRACE" := by
  rw [eq_turnOf_of_mem_turns h] at hmode he
  rw [events_turnOf, Turn.refusal?, unknown?_of_compact _ _ hmode, Option.map_none,
    Option.toList_none, List.append_nil, Option.mem_toList] at he
  have hkind := (kind_of_mem_binding? he).1
  rw [Event.isBinding, Event.reads, decide_eq_true_iff] at hkind
  rw [hkind.1]
  decide

/-- **The events of a session are its bindings and its refusals.** The bindings are those of the
steps that bind a catalog, with the mode after the step, and the refusals those of the steps that
could not name a code, with that code. Other turns are silent, and no turn reports twice. -/
theorem events_accounted (steps : List Step) :
    ((turns steps).map Turn.step = steps ∧ (turns steps).map Turn.record = run steps ∧
      (emissions steps).map Prod.snd = (run steps).flatMap Record.events) ∧
    ((emissions steps).filter (fun p => p.2.reads "DEBUG" "token catalog bound") =
      ((turns steps).filter (·.step.binds)).map fun t => (t, .bound t.record.mode)) ∧
    ((emissions steps).filter (fun p => p.2.reads "TRACE" "no canonical name for token code") =
      (turns steps).filterMap fun t => t.unknown?.map fun e => (t, .unnamed e.code)) ∧
    ∀ t ∈ turns steps, t.record.events.length ≤ 1 ∧ (t.Quiet → t.record.events = []) ∧
      ∀ e ∈ t.record.events,
        (e.reads "DEBUG" "token catalog bound" = true ∨
          e.reads "TRACE" "no canonical name for token code" = true) ∧
        (t.before = .compact → e.level ≠ "TRACE") := by
  refine ⟨⟨map_step_turns steps, map_record_turns steps, map_event_emissions steps⟩, ?_, ?_, ?_⟩
  · rw [← bindings_eq]
    exact filter_emissions fun t ht => filter_isBinding ht
  · have hrefusals := filter_emissions fun t (ht : t ∈ turns steps) => filter_isRefusal ht
    simpa only [Turn.refusal?, Option.map_map, Function.comp_def] using hrefusals
  · intro t ht
    refine ⟨length_events ht, events_eq_nil_of_quiet ht, ?_⟩
    intro e he
    exact ⟨kind_of_mem_events ht he, fun hmode => level_of_compact ht hmode he⟩

/-- The same name is refused by a verbose catalog and given silently after a reset. -/
theorem events_refused_then_silent :
    (turnOf ⟨.verbose⟩ (.dump [⟨21⟩, ⟨163⟩, ⟨-2⟩])).unknown? = some ⟨⟨163⟩⟩ ∧
    turnOf default (.name ⟨163⟩) ∈
      turns [.bind .verbose, .dump [⟨21⟩, ⟨163⟩, ⟨-2⟩], .reset, .name ⟨163⟩] ∧
    (turnOf default (.name ⟨163⟩)).Quiet ∧
    (turnOf default (.name ⟨163⟩)).record.events = [] := by
  have hturns : turns [.bind .verbose, .dump [⟨21⟩, ⟨163⟩, ⟨-2⟩], .reset, .name ⟨163⟩] =
      [turnOf default (.bind .verbose), turnOf ⟨.verbose⟩ (.dump [⟨21⟩, ⟨163⟩, ⟨-2⟩]),
        turnOf ⟨.verbose⟩ .reset, turnOf default (.name ⟨163⟩)] := rfl
  have hrefused : (Catalog.dump ⟨.verbose⟩ [⟨21⟩, ⟨163⟩, ⟨-2⟩]).result = .error ⟨⟨163⟩⟩ := by
    obtain ⟨n, hn⟩ : ∃ n, (⟨21⟩ : Code).name? = some n := Code.exists_name?_iff.mpr (by decide)
    have hfirst : (Catalog.name ⟨.verbose⟩ ⟨21⟩).result = .ok n :=
      Catalog.result_name_eq_ok_iff.mpr (Or.inr ⟨rfl, hn⟩)
    have hsecond : (Catalog.name ⟨.verbose⟩ ⟨163⟩).result = .error ⟨⟨163⟩⟩ := by
      rw [Catalog.result_name_verbose, Code.name_eq_error_self_iff]
      decide
    rw [Catalog.result_dump_eq_error_iff, Catalog.result_names_cons_eq_error_iff]
    exact Or.inr ⟨n, hfirst, Catalog.result_names_cons_eq_error_iff.mpr (Or.inl hsecond)⟩
  have hmem : turnOf default (.name ⟨163⟩) ∈
      turns [.bind .verbose, .dump [⟨21⟩, ⟨163⟩, ⟨-2⟩], .reset, .name ⟨163⟩] := by
    rw [hturns]
    simp only [List.mem_cons, true_or, or_true]
  have hquiet : (turnOf default (.name ⟨163⟩)).Quiet := Or.inr (Or.inr ⟨"163", rfl⟩)
  refine ⟨?_, hmem, hquiet, ((events_accounted _).2.2.2 _ hmem).2.1 hquiet⟩
  change (Answer.text (Catalog.dump ⟨.verbose⟩ [⟨21⟩, ⟨163⟩, ⟨-2⟩]).result).unknown? = _
  rw [hrefused]
  rfl

end Session

end ScriptLexicon
