import ScriptLexicon.Proofs.Catalog

/-!
# Dumps as sequences of namings

A dump names its codes in order and stops at the first one that is refused. It gives and reports
what those namings give and report, so the dump of two lists is composed of their dumps.
-/

namespace ScriptLexicon.Catalog

variable {k : Catalog} {c : Code} {cs xs ys : List Code} {ns ms : List String}
  {text more : String} {e : UnknownCode}

/-! ## One naming after the other -/

/-- The codes a dump goes through: all up to the first that is refused, and that one. -/
def asked (k : Catalog) : List Code → List Code
  | [] => []
  | c :: cs =>
    match (k.name c).result with
    | .ok _ => c :: k.asked cs
    | .error _ => [c]

theorem result_names_eq_mapM (k : Catalog) (cs : List Code) :
    (k.names cs).result = cs.mapM fun c => (k.name c).result := by
  induction cs with
  | nil => rfl
  | cons c cs ih =>
    rw [List.mapM_cons, ← ih]
    simp only [names]
    cases (k.name c).result with
    | error e => rfl
    | ok n => cases (k.names cs).result <;> rfl

theorem events_names_eq_flatMap (k : Catalog) (cs : List Code) :
    (k.names cs).events = (k.asked cs).flatMap fun c => (k.name c).events := by
  induction cs with
  | nil => rfl
  | cons c cs ih =>
    simp only [names, asked]
    cases (k.name c).result with
    | error e => simp
    | ok n => simp [ih]

/-! ## Silence and refusal -/

/-- The events of a dump are those that belong to its result. -/
theorem dump_eq_iff {r : Except UnknownCode String} :
    k.dump cs = ⟨r, refusals r⟩ ↔ (k.dump cs).result = r := by
  constructor
  · intro h
    rw [h]
  · rintro rfl
    rw [← events_dump]

theorem exists_result_name_verbose_iff :
    (∃ n, (name ⟨.verbose⟩ c).result = .ok n) ↔ -1 ≤ c.value ∧ c.value ≤ 162 := by
  rw [result_name_verbose, Code.exists_name_iff]

theorem exists_result_names_iff :
    (∃ ns, (k.names cs).result = .ok ns) ↔ ∀ c ∈ cs, ∃ n, (k.name c).result = .ok n := by
  induction cs with
  | nil => simp [names]
  | cons c cs ih =>
    rw [List.forall_mem_cons, ← ih]
    simp only [result_names_cons_eq_ok_iff]
    constructor
    · rintro ⟨-, n, rest, hn, hrest, -⟩
      exact ⟨⟨n, hn⟩, rest, hrest⟩
    · rintro ⟨⟨n, hn⟩, rest, hrest⟩
      exact ⟨_, n, rest, hn, hrest, rfl⟩

theorem exists_result_dump_iff :
    (∃ text, (k.dump cs).result = .ok text) ↔ ∀ c ∈ cs, ∃ n, (k.name c).result = .ok n := by
  rw [← exists_result_names_iff]
  simp only [result_dump_eq_ok_iff]
  constructor
  · rintro ⟨-, ns, hns, -⟩
    exact ⟨ns, hns⟩
  · rintro ⟨ns, hns⟩
    exact ⟨_, ns, hns, rfl⟩

/-! ## Dumps of two lists -/

theorem result_names_append (k : Catalog) (xs ys : List Code) :
    (k.names (xs ++ ys)).result = (do
      let ns ← (k.names xs).result
      let ms ← (k.names ys).result
      pure (ns ++ ms)) := by
  simp only [result_names_eq_mapM, List.mapM_append]

theorem result_names_append_of_error (ys : List Code) (h : (k.names xs).result = .error e) :
    (k.names (xs ++ ys)).result = .error e := by
  rw [result_names_append, h]
  rfl

theorem result_names_append_of_ok (ys : List Code) (h : (k.names xs).result = .ok ns) :
    (k.names (xs ++ ys)).result = (k.names ys).result.map (ns ++ ·) := by
  rw [result_names_append, h]
  cases (k.names ys).result <;> rfl

theorem dump_append_of_error (h : (k.dump xs).result = .error e) :
    k.dump (xs ++ ys) = k.dump xs := by
  have hnames := result_names_append_of_error ys (result_dump_eq_error_iff.mp h)
  rw [dump_eq_iff.mpr h, dump_eq_iff, result_dump_eq_error_iff]
  exact hnames

theorem dump_append_of_ok_error (hx : (k.dump xs).result = .ok text)
    (hy : (k.dump ys).result = .error e) : k.dump (xs ++ ys) = k.dump ys := by
  obtain ⟨ns, hns, -⟩ := result_dump_eq_ok_iff.mp hx
  have hnames := result_names_append_of_ok ys hns
  rw [result_dump_eq_error_iff.mp hy] at hnames
  rw [dump_eq_iff.mpr hy, dump_eq_iff, result_dump_eq_error_iff]
  exact hnames

theorem names_ne_nil (h : (k.names cs).result = .ok ns) (hcs : cs ≠ []) : ns ≠ [] := by
  obtain ⟨c, rest, rfl⟩ := List.exists_cons_of_ne_nil hcs
  obtain ⟨n, ns, -, -, rfl⟩ := result_names_cons_eq_ok_iff.mp h
  exact List.cons_ne_nil n ns

/-- The space stands between two codes, so an empty list leaves the other text as it is. -/
theorem dump_append_of_ok (hx : (k.dump xs).result = .ok text)
    (hy : (k.dump ys).result = .ok more) :
    k.dump (xs ++ ys) =
      ⟨.ok (if xs = [] then more else if ys = [] then text else text ++ " " ++ more), []⟩ := by
  apply dump_eq_iff.mpr
  split_ifs with hxs hys
  · rw [hxs, List.nil_append]
    exact hy
  · rw [hys, List.append_nil]
    exact hx
  · obtain ⟨ns, hns, rfl⟩ := result_dump_eq_ok_iff.mp hx
    obtain ⟨ms, hms, rfl⟩ := result_dump_eq_ok_iff.mp hy
    have hnames := result_names_append_of_ok ys hns
    rw [hms] at hnames
    rw [← String.intercalate_append_of_ne_nil (names_ne_nil hns hxs) (names_ne_nil hms hys)]
    exact result_dump_eq_ok_iff.mpr ⟨ns ++ ms, hnames, rfl⟩

/-! ## Whole dumps -/

theorem dump_of_first_refused (hbefore : ∀ b ∈ xs, ∃ n, (k.name b).result = .ok n)
    (hc : (k.name c).result = .error e) :
    k.dump (xs ++ c :: ys) = ⟨.error e, [.unnamed e.code]⟩ := by
  obtain ⟨text, htext⟩ := exists_result_dump_iff.mpr hbefore
  have hrefused : (k.dump (c :: ys)).result = .error e := by
    rw [result_dump_eq_error_iff, result_names_cons_eq_error_iff]
    exact Or.inl hc
  rw [dump_append_of_ok_error htext hrefused]
  exact dump_eq_iff.mpr hrefused

theorem dump_compact (cs : List Code) :
    dump ⟨.compact⟩ cs = ⟨.ok (" ".intercalate (cs.map Code.decimal)), []⟩ :=
  dump_eq_iff.mpr (result_dump_compact cs)

theorem result_name_verbose_of_outside (h : ¬ (-1 ≤ c.value ∧ c.value ≤ 162)) :
    (name ⟨.verbose⟩ c).result = .error ⟨c⟩ := by
  rw [result_name_verbose, Code.name_eq_error_self_iff]
  omega

/-- **A dump is its namings in order, up to the first refusal.** A compact dump always succeeds, a
verbose one when all codes have names, and both are silent then. Otherwise the first code without
a name is the answer and the only event, whatever follows it. The dump of two lists is composed
of their dumps. -/
theorem dump_composes_names :
    (∀ (k : Catalog) cs,
      (k.dump cs).result = (cs.mapM fun c => (k.name c).result).map (" ".intercalate ·) ∧
      (k.dump cs).events = (k.asked cs).flatMap fun c => (k.name c).events) ∧
    (∀ k : Catalog, k.naming = .compact → ∀ cs, ∃ text, k.dump cs = ⟨.ok text, []⟩) ∧
    (∀ k : Catalog, k.naming = .verbose →
      (∀ cs, (∃ text, (k.dump cs).result = .ok text) ↔ ∀ c ∈ cs, -1 ≤ c.value ∧ c.value ≤ 162) ∧
      (∀ cs text, (k.dump cs).result = .ok text → (k.dump cs).events = []) ∧
      ∀ before c after, (∀ b ∈ before, -1 ≤ b.value ∧ b.value ≤ 162) →
        ¬ (-1 ≤ c.value ∧ c.value ≤ 162) →
        k.dump (before ++ c :: after) = ⟨.error ⟨c⟩, [.unnamed c]⟩ ∧
        (Event.unnamed c).level = "TRACE") ∧
    ∀ (k : Catalog) xs ys,
      (∀ e, (k.dump xs).result = .error e → k.dump (xs ++ ys) = k.dump xs) ∧
      (∀ text e, (k.dump xs).result = .ok text → (k.dump ys).result = .error e →
        k.dump (xs ++ ys) = k.dump ys) ∧
      ∀ text more, (k.dump xs).result = .ok text → (k.dump ys).result = .ok more →
        k.dump (xs ++ ys) =
          ⟨.ok (if xs = [] then more else if ys = [] then text else text ++ " " ++ more), []⟩ := by
  refine ⟨?_, ?_, ?_, ?_⟩
  · intro k cs
    rw [← result_names_eq_mapM, ← events_names_eq_flatMap]
    exact ⟨rfl, rfl⟩
  · rintro ⟨_⟩ rfl cs
    exact ⟨_, dump_compact cs⟩
  · rintro ⟨_⟩ rfl
    refine ⟨?_, ?_, ?_⟩
    · intro cs
      simp only [exists_result_dump_iff, exists_result_name_verbose_iff]
    · intro cs text h
      rw [dump_eq_iff.mpr h]
      rfl
    · intro before c after hbefore hc
      refine ⟨?_, rfl⟩
      apply dump_of_first_refused
      · intro b hb
        exact exists_result_name_verbose_iff.mpr (hbefore b hb)
      · exact result_name_verbose_of_outside hc
  · intro k xs ys
    exact ⟨fun e => dump_append_of_error, fun text e => dump_append_of_ok_error,
      fun text more => dump_append_of_ok⟩

/-- The codes 163 and -2 have no names. A verbose dump reports the first and stops there, and a
compact one shows both. -/
theorem dump_reports_first_of_two :
    dump ⟨.verbose⟩ [⟨21⟩, ⟨163⟩, ⟨-2⟩] = ⟨.error ⟨⟨163⟩⟩, [.unnamed ⟨163⟩]⟩ ∧
    dump ⟨.verbose⟩ ([⟨21⟩, ⟨163⟩, ⟨-2⟩] ++ [⟨5⟩]) = dump ⟨.verbose⟩ [⟨21⟩, ⟨163⟩, ⟨-2⟩] ∧
    dump ⟨.verbose⟩ ([⟨5⟩] ++ [⟨163⟩]) = dump ⟨.verbose⟩ [⟨163⟩] ∧
    (∃ text, dump ⟨.compact⟩ [⟨163⟩, ⟨-2⟩] = ⟨.ok text, []⟩) ∧
    dump ⟨.compact⟩ ([⟨163⟩] ++ [⟨-2⟩]) = ⟨.ok "163 -2", []⟩ := by
  obtain ⟨-, hcompact, hverbose, happend⟩ := dump_composes_names
  obtain ⟨hiff, -, hfirst⟩ := hverbose ⟨.verbose⟩ rfl
  have hthree : dump ⟨.verbose⟩ [⟨21⟩, ⟨163⟩, ⟨-2⟩] = ⟨.error ⟨⟨163⟩⟩, [.unnamed ⟨163⟩]⟩ :=
    (hfirst [⟨21⟩] ⟨163⟩ [⟨-2⟩] (by decide) (by decide)).1
  have hlast : dump ⟨.verbose⟩ [⟨163⟩] = ⟨.error ⟨⟨163⟩⟩, [.unnamed ⟨163⟩]⟩ :=
    (hfirst [] ⟨163⟩ [] (by decide) (by decide)).1
  obtain ⟨text, htext⟩ := (hiff [⟨5⟩]).mpr (by decide)
  refine ⟨hthree, ?_, ?_, hcompact ⟨.compact⟩ rfl _, ?_⟩
  · exact (happend ⟨.verbose⟩ _ [⟨5⟩]).1 ⟨⟨163⟩⟩ (congrArg Reported.result hthree)
  · exact (happend ⟨.verbose⟩ [⟨5⟩] _).2.1 text ⟨⟨163⟩⟩ htext (congrArg Reported.result hlast)
  · exact (happend ⟨.compact⟩ [⟨163⟩] [⟨-2⟩]).2.2 "163" "-2" rfl rfl

end ScriptLexicon.Catalog
