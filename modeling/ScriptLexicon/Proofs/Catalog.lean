import ScriptLexicon.Catalog
import ScriptLexicon.Proofs.TokenName

/-!
# Naming and dumping

What a catalog gives for one code, for a list of codes, and for their dump. A compact catalog
never fails; a verbose one gives the names of the codes. Naming reports what it could not name,
and nothing else.
-/

namespace ScriptLexicon.Catalog

variable {k : Catalog} {c : Code} {cs : List Code} {n text : String} {ns : List String}

theorem result_name_eq_ok_iff :
    (k.name c).result = .ok n ↔
      k.naming = .compact ∧ n = c.decimal ∨ k.naming = .verbose ∧ c.name? = some n := by
  unfold name
  cases hnaming : k.naming with
  | compact => simp [eq_comm]
  | verbose =>
    rw [← Code.name_eq_ok_iff]
    cases c.name <;> simp

theorem result_name_verbose (c : Code) : (name ⟨.verbose⟩ c).result = c.name := by
  unfold name
  cases c.name <;> rfl

theorem result_names_cons_eq_ok_iff :
    (k.names (c :: cs)).result = .ok ns ↔
      ∃ n rest, (k.name c).result = .ok n ∧ (k.names cs).result = .ok rest ∧ ns = n :: rest := by
  simp only [names]
  cases (k.name c).result with
  | error e => simp
  | ok n =>
    cases (k.names cs).result with
    | error e => simp [Except.map]
    | ok rest => simp [Except.map, eq_comm]

theorem result_names_cons_eq_error_iff {e : UnknownCode} :
    (k.names (c :: cs)).result = .error e ↔
      (k.name c).result = .error e ∨
        ∃ n, (k.name c).result = .ok n ∧ (k.names cs).result = .error e := by
  simp only [names]
  cases (k.name c).result with
  | error d => simp
  | ok n => cases (k.names cs).result <;> simp [Except.map]

theorem result_names_compact (cs : List Code) :
    (names ⟨.compact⟩ cs).result = .ok (cs.map Code.decimal) := by
  induction cs with
  | nil => rfl
  | cons c cs ih => exact result_names_cons_eq_ok_iff.mpr ⟨_, _, rfl, ih, rfl⟩

theorem result_names_verbose_eq_ok_iff :
    (names ⟨.verbose⟩ cs).result = .ok ns ↔
      List.Forall₂ (fun c n => (c, n) ∈ Token.named) cs ns := by
  induction cs generalizing ns with
  | nil =>
    rw [List.forall₂_nil_left_iff]
    exact ⟨fun h => (Except.ok.inj h).symm, fun h => congrArg Except.ok h.symm⟩
  | cons c cs ih =>
    rw [result_names_cons_eq_ok_iff, List.forall₂_cons_left_iff]
    simp only [ih, result_name_eq_ok_iff, Code.name?_eq_some_iff, reduceCtorEq, false_and,
      false_or, true_and]

theorem result_dump_eq_ok_iff :
    (k.dump cs).result = .ok text ↔
      ∃ ns, (k.names cs).result = .ok ns ∧ text = " ".intercalate ns := by
  simp only [dump]
  cases (k.names cs).result with
  | error e => simp [Except.map]
  | ok ns => simp [Except.map, eq_comm]

theorem result_dump_eq_error_iff {e : UnknownCode} :
    (k.dump cs).result = .error e ↔ (k.names cs).result = .error e := by
  simp only [dump]
  cases (k.names cs).result <;> simp [Except.map]

theorem result_dump_compact (cs : List Code) :
    (dump ⟨.compact⟩ cs).result = .ok (" ".intercalate (cs.map Code.decimal)) :=
  result_dump_eq_ok_iff.mpr ⟨_, result_names_compact cs, rfl⟩

/-! ## Events -/

/-- The events that belong to a result. A name that could not be given is reported once. -/
def refusals {α : Type} : Except UnknownCode α → List Event
  | .ok _ => []
  | .error e => [.unnamed e.code]

theorem refusals_map {α β : Type} (f : α → β) (r : Except UnknownCode α) :
    refusals (r.map f) = refusals r := by
  cases r <;> rfl

theorem events_name (k : Catalog) (c : Code) : (k.name c).events = refusals (k.name c).result := by
  unfold name
  cases k.naming with
  | compact => rfl
  | verbose => cases c.name <;> rfl

/-- The codes named before the first failure report nothing, so one event at most is left. -/
theorem events_names (k : Catalog) (cs : List Code) :
    (k.names cs).events = refusals (k.names cs).result := by
  induction cs with
  | nil => rfl
  | cons c cs ih =>
    have hfirst := events_name k c
    simp only [names]
    cases hresult : (k.name c).result with
    | error e =>
      rw [hresult] at hfirst
      exact hfirst
    | ok n =>
      have hsilent : (k.name c).events = [] := by rw [hfirst, hresult, refusals]
      rw [hsilent, List.nil_append, ih, refusals_map]

theorem events_dump (k : Catalog) (cs : List Code) :
    (k.dump cs).events = refusals (k.dump cs).result := by
  simp only [dump, refusals_map, events_names]

end ScriptLexicon.Catalog
