import ScriptLexicon.Proofs.DumpReading

/-!
# Codes in text

A code is shown by its name, or by its value where it has no name. Names and values are told apart
by how they start, so a text shows one code at most. The catalog gives the same texts in its two
modes.
-/

namespace ScriptLexicon

variable {a b c : Code} {n : String}

/-! ## The catalog and the code -/

theorem Code.display_of_name? (h : c.name? = some n) : c.display = n := by
  rw [display, h]

theorem Code.display_of_name?_eq_none (h : c.name? = none) : c.display = c.decimal := by
  rw [display, h]

theorem Code.debug_of_name? (h : c.name? = some n) : c.debug = n ++ "(" ++ c.decimal ++ ")" := by
  rw [debug, label, h, Option.getD_some]

theorem Code.debug_of_name?_eq_none (h : c.name? = none) :
    c.debug = "TokenCode" ++ "(" ++ c.decimal ++ ")" := by
  rw [debug, label, h, Option.getD_none]

/-! ## A text shows one code -/

theorem Dump.shows_display (c : Code) : Dump.Shows c.display c := by
  cases h : c.name? with
  | some n =>
    rw [Code.display_of_name? h]
    exact Dump.shows_name h
  | none =>
    rw [Code.display_of_name?_eq_none h]
    exact Dump.shows_decimal c

theorem Code.display_inj : a.display = b.display ↔ a = b := by
  constructor
  · intro h
    have ha := (Dump.shows_display a).reads
    rw [h, (Dump.shows_display b).reads] at ha
    exact (Option.some.inj ha).symm
  · exact congrArg display

theorem Code.name_ne_decimal (h : a.name? = some n) (b : Code) : n ≠ b.decimal := by
  rintro rfl
  have hname := Dump.startsNumber_name h
  rw [Dump.startsNumber_decimal b] at hname
  cases hname

/-- **No two codes look alike, and everything that shows codes agrees.** The display of a code is
its verbose name where there is one, and its compact name elsewhere; for debugging both are shown.
Different codes have different displays, since no name is that of another code or a number. -/
theorem Code.renderers_agree_and_separate :
    (∀ c : Code, ((Catalog.bind .compact).result.name c).result = .ok c.decimal ∧
      (∀ n, ((Catalog.bind .verbose).result.name c).result = .ok n →
        c.display = n ∧ c.debug = n ++ "(" ++ c.decimal ++ ")") ∧
      ∀ e, ((Catalog.bind .verbose).result.name c).result = .error e →
        c.display = c.decimal ∧ c.debug = "TokenCode" ++ "(" ++ c.decimal ++ ")") ∧
    (∀ a b : Code, a.display = b.display ↔ a = b) ∧
    (∀ (a b : Code) n, a.name = .ok n → b.name = .ok n → a = b) ∧
    ∀ (a b : Code) n, a.name = .ok n → n ≠ b.decimal := by
  have hverbose (c : Code) : ((Catalog.bind .verbose).result.name c).result = c.name :=
    Catalog.result_name_verbose c
  refine ⟨?_, ?_, ?_, ?_⟩
  · intro c
    rw [hverbose]
    refine ⟨rfl, ?_, ?_⟩
    · intro n h
      have hname := Code.name_eq_ok_iff.mp h
      exact ⟨Code.display_of_name? hname, Code.debug_of_name? hname⟩
    · intro e h
      have hnone := (Code.name_eq_error_iff.mp h).1
      exact ⟨Code.display_of_name?_eq_none hnone, Code.debug_of_name?_eq_none hnone⟩
  · intro a b
    exact Code.display_inj
  · intro a b n ha hb
    exact Code.name?_inj (Code.name_eq_ok_iff.mp ha) (Code.name_eq_ok_iff.mp hb)
  · intro a b n h
    exact Code.name_ne_decimal (Code.name_eq_ok_iff.mp h) b

/-- The last name before the end of the code space, and the end, which is shown by its value. -/
theorem Code.renderings_of_last_two :
    ((⟨162⟩ : Code).display = "GENEXPR" ∧
      (⟨162⟩ : Code).debug = "GENEXPR" ++ "(" ++ "162" ++ ")") ∧
    ((⟨163⟩ : Code).display = "163" ∧ (⟨163⟩ : Code).debug = "TokenCode" ++ "(" ++ "163" ++ ")") ∧
    (⟨162⟩ : Code) = Token.genExpr ∧ "GENEXPR" ≠ (⟨162⟩ : Code).decimal := by
  obtain ⟨hagree, -, hname, hdecimal⟩ := Code.renderers_agree_and_separate
  have hgen : (⟨162⟩ : Code).name = .ok "GENEXPR" :=
    Code.name_eq_ok_iff.mpr (Code.name?_eq_some_iff.mpr (List.mem_of_getElem? (i := 163) rfl))
  have hlast : (⟨163⟩ : Code).name = .error ⟨⟨163⟩⟩ :=
    Code.name_eq_error_self_iff.mpr (Or.inr (by decide))
  exact ⟨(hagree ⟨162⟩).2.1 "GENEXPR" ((Catalog.result_name_verbose _).trans hgen),
    (hagree ⟨163⟩).2.2 ⟨⟨163⟩⟩ ((Catalog.result_name_verbose _).trans hlast),
    hname _ Token.genExpr "GENEXPR" hgen hgen, hdecimal _ _ "GENEXPR" hgen⟩

end ScriptLexicon
