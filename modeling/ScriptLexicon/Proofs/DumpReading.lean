import ScriptLexicon.Proofs.Catalog

/-!
# Reading dumps back

Every piece of a dump shows its code by itself: it has no space, and it is read as the code
whether the catalog wrote a number or a name. A dump is therefore read back whole in either mode.
-/

namespace ScriptLexicon.Dump

variable {k : Catalog} {c : Code} {cs ds : List Code} {n text : String} {ns : List String}

/-! ## One piece -/

/-- A piece that stands for the code wherever it is found between spaces. -/
structure Shows (n : String) (c : Code) : Prop where
  nonempty : n.toList ≠ []
  unspaced : ' ' ∉ n.toList
  reads : readPiece n.toList = some c

theorem startsNumber_eq {piece : List Char} {b : Bool} (hne : piece ≠ [])
    (h : ∀ ch ∈ piece, (ch.isDigit || ch = '-') = b) : startsNumber piece = b := by
  obtain ⟨ch, rest, rfl⟩ := List.exists_cons_of_ne_nil hne
  exact h ch List.mem_cons_self

theorem startsNumber_decimal (c : Code) : startsNumber c.decimal.toList = true := by
  apply startsNumber_eq (Decimal.toList_repr_ne_nil c.value)
  intro ch hch
  simpa using Decimal.isDigit_or_minus_of_mem_repr hch

theorem shows_decimal (c : Code) : Shows c.decimal c := by
  refine ⟨Decimal.toList_repr_ne_nil c.value, ?_, ?_⟩
  · intro hspace
    rcases Decimal.isDigit_or_minus_of_mem_repr hspace with h | h <;> exact absurd h (by decide)
  · rw [readPiece, if_pos (startsNumber_decimal c), Code.decimal, Decimal.integer?_repr,
      Option.bind_some, Code.ofInt?_value]

theorem not_numeric_of_isNameLetter {ch : Char} (h : isNameLetter ch = true) :
    (ch.isDigit || ch = '-') = false := by
  have hlo : 65 ≤ ch.toNat := by
    rw [isNameLetter, Bool.or_eq_true, decide_eq_true_iff] at h
    rcases h with h | rfl
    · have hupper := of_decide_eq_true h
      exact UInt32.le_iff_toNat_le.mp hupper.1
    · decide
  rw [Bool.eq_false_iff, ne_eq, Bool.or_eq_true, decide_eq_true_iff]
  rintro (hdigit | rfl)
  · have hhi : ch.toNat ≤ 57 := (Char.isDigit_iff_toNat.mp hdigit).2
    omega
  · exact absurd hlo (by decide)

theorem startsNumber_name (h : c.name? = some n) : startsNumber n.toList = false := by
  obtain ⟨hne, hletter⟩ := Code.isNameLetter_of_mem_name? h
  exact startsNumber_eq hne fun ch hch => not_numeric_of_isNameLetter (hletter ch hch)

theorem shows_name (h : c.name? = some n) : Shows n c := by
  obtain ⟨hne, hletter⟩ := Code.isNameLetter_of_mem_name? h
  refine ⟨hne, ?_, ?_⟩
  · intro hspace
    exact absurd (hletter _ hspace) (by decide)
  · rw [readPiece, startsNumber_name h, if_neg Bool.false_ne_true, String.ofList_toList]
    exact Token.find?_of_mem_named (Code.name?_eq_some_iff.mp h)

theorem shows_of_name (h : (k.name c).result = .ok n) : Shows n c := by
  rcases Catalog.result_name_eq_ok_iff.mp h with ⟨-, rfl⟩ | ⟨-, hname⟩
  · exact shows_decimal c
  · exact shows_name hname

/-! ## All pieces -/

/-- Naming codes gives one piece for each code, in their order. -/
theorem shows_names (h : (k.names cs).result = .ok ns) : List.Forall₂ Shows ns cs := by
  induction cs generalizing ns with
  | nil =>
    obtain rfl : [] = ns := Except.ok.inj h
    exact List.Forall₂.nil
  | cons c cs ih =>
    obtain ⟨n, rest, hn, hrest, rfl⟩ := Catalog.result_names_cons_eq_ok_iff.mp h
    exact List.Forall₂.cons (shows_of_name hn) (ih hrest)

theorem mapM_readPiece (h : List.Forall₂ Shows ns cs) :
    (ns.map String.toList).mapM readPiece = some cs := by
  induction h with
  | nil => rfl
  | cons hn _ ih => simp [hn.reads, ih]

theorem intercalate_ne_empty {sep : String} (hn : n.toList ≠ []) :
    sep.intercalate (n :: ns) ≠ "" := by
  intro h
  apply hn
  have hlist := congrArg String.toList h
  cases ns with
  | nil => simpa using hlist
  | cons m ns =>
    rw [String.intercalate_cons_cons, String.toList_append, String.toList_append] at hlist
    exact (List.append_eq_nil_iff.mp (List.append_eq_nil_iff.mp hlist).1).1

/-- Splitting at spaces undoes the joining of pieces that have none. -/
theorem pieces_intercalate (hne : ∀ n ∈ ns, n.toList ≠ []) (hspace : ∀ n ∈ ns, ' ' ∉ n.toList) :
    pieces (" ".intercalate ns) = ns.map String.toList := by
  cases ns with
  | nil => rfl
  | cons n ns =>
    have htext : (" ".intercalate (n :: ns)).isEmpty = false :=
      String.isEmpty_eq_false_iff.mpr (intercalate_ne_empty (hne n List.mem_cons_self))
    rw [pieces, htext, if_neg Bool.false_ne_true, String.toList_intercalate]
    apply List.splitOn_intercalate
    · intro piece hpiece
      obtain ⟨m, hm, rfl⟩ := List.mem_map.mp hpiece
      exact hspace m hm
    · simp

theorem exists_shows_of_mem (h : List.Forall₂ Shows ns cs) (hn : n ∈ ns) : ∃ c, Shows n c := by
  induction h with
  | nil => simp at hn
  | cons hfirst _ ih =>
    rcases List.mem_cons.mp hn with rfl | hn
    · exact ⟨_, hfirst⟩
    · exact ih hn

theorem read_intercalate (h : List.Forall₂ Shows ns cs) : read (" ".intercalate ns) = some cs := by
  rw [read, pieces_intercalate, mapM_readPiece h]
  · intro n hn
    obtain ⟨c, hc⟩ := exists_shows_of_mem h hn
    exact hc.nonempty
  · intro n hn
    obtain ⟨c, hc⟩ := exists_shows_of_mem h hn
    exact hc.unspaced

/-! ## Whole dumps -/

theorem read_dump (h : (k.dump cs).result = .ok text) : read text = some cs := by
  obtain ⟨ns, hns, rfl⟩ := Catalog.result_dump_eq_ok_iff.mp h
  exact read_intercalate (shows_names hns)

theorem dump_inj (hcs : (k.dump cs).result = .ok text) (hds : (k.dump ds).result = .ok text) :
    cs = ds :=
  Option.some.inj ((read_dump hcs).symm.trans (read_dump hds))

theorem dump_eq_empty_iff : (k.dump cs).result = .ok "" ↔ cs = [] := by
  constructor
  · intro h
    exact dump_inj h rfl
  · rintro rfl
    rfl

theorem exists_compact_dump (cs : List Code) :
    ∃ text, (Catalog.dump ⟨.compact⟩ cs).result = .ok text :=
  ⟨_, Catalog.result_dump_compact cs⟩

/-- **Dumps are read back in either mode**, so a dump in one mode has one list of codes, only no
codes make an empty dump, and the dumps of one list in both modes are read as the same list. -/
theorem read_dump_of_bound :
    (∀ naming cs text, ((Catalog.bind naming).result.dump cs).result = .ok text →
      read text = some cs) ∧
    (∀ naming cs ds text, ((Catalog.bind naming).result.dump cs).result = .ok text →
      ((Catalog.bind naming).result.dump ds).result = .ok text → cs = ds) ∧
    (∀ naming cs, ((Catalog.bind naming).result.dump cs).result = .ok "" ↔ cs = []) ∧
    ∀ cs, ∃ compact, ((Catalog.bind .compact).result.dump cs).result = .ok compact ∧
      read compact = some cs ∧
      ∀ verbose, ((Catalog.bind .verbose).result.dump cs).result = .ok verbose →
        read verbose = read compact := by
  refine ⟨?_, ?_, ?_, ?_⟩
  · intro naming cs text
    exact read_dump
  · intro naming cs ds text
    exact dump_inj
  · intro naming cs
    exact dump_eq_empty_iff
  · intro cs
    obtain ⟨compact, hcompact⟩ := exists_compact_dump cs
    refine ⟨compact, hcompact, read_dump hcompact, ?_⟩
    intro verbose hverbose
    rw [read_dump hcompact, read_dump hverbose]

theorem read_dump_script_error :
    ((Catalog.bind .verbose).result.dump [⟨136⟩, ⟨-1⟩]).result = .ok "SCRIPT ERROR" ∧
      read "SCRIPT ERROR" = some [⟨136⟩, ⟨-1⟩] := by
  have hnames : List.Forall₂ (fun c n => (c, n) ∈ Token.named) [⟨136⟩, ⟨-1⟩] ["SCRIPT", "ERROR"] :=
    .cons (by decide +kernel) (.cons (by decide +kernel) .nil)
  have hdump : ((Catalog.bind .verbose).result.dump [⟨136⟩, ⟨-1⟩]).result = .ok "SCRIPT ERROR" :=
    Catalog.result_dump_eq_ok_iff.mpr ⟨_, Catalog.result_names_verbose_eq_ok_iff.mpr hnames, rfl⟩
  exact ⟨hdump, read_dump_of_bound.1 _ _ _ hdump⟩

end ScriptLexicon.Dump
