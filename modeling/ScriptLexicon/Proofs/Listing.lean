import ScriptLexicon.Listing
import ScriptLexicon.Proofs.Rendering

/-!
# Reading listings back

No label and no number has a parenthesis, a comma or a blank. So the commas of a listing stand
between its items only, the parentheses of an item enclose its number, and the codes are read back
from either layout.
-/

namespace ScriptLexicon.Listing

variable {c : Code} {cs ds : List Code} {x y : List Char} {ch : Char}
  {write : List Code → String}

/-! ## Characters around the parts -/

/-- The characters between items. -/
def gaps : List Char := [',', ' ', '\n']

/-- The characters around labels and numbers. -/
def marks : List Char := '(' :: ')' :: gaps

theorem not_mem_marks_of_mem_label (h : ch ∈ c.label.toList) : ch ∉ marks := by
  cases hname : c.name? with
  | some n =>
    have hmarks : ∀ ch ∈ marks, isNameLetter ch = false := by simp [marks, gaps, isNameLetter]
    rw [Code.label, hname] at h
    have hletter := (Code.isNameLetter_of_mem_name? hname).2 ch h
    intro hch
    rw [hmarks ch hch] at hletter
    cases hletter
  | none =>
    have hword : ∀ ch ∈ "TokenCode".toList, ch ∉ marks := by simp [marks, gaps]
    rw [Code.label, hname] at h
    exact hword ch h

theorem not_mem_marks_of_mem_decimal (h : ch ∈ c.decimal.toList) : ch ∉ marks := by
  have hmarks : ∀ ch ∈ marks, ch.isDigit = false ∧ ch ≠ '-' := by simp [marks, gaps]
  intro hch
  rcases Decimal.isDigit_or_minus_of_mem_repr h with hdigit | hminus
  · rw [(hmarks ch hch).1] at hdigit
    cases hdigit
  · exact (hmarks ch hch).2 hminus

/-! ## One item -/

/-- What stands before the first parenthesis of an item. -/
def labelOf (item : List Char) : List Char := item.takeWhile (· ≠ '(')

/-- The integer between the parentheses of an item. -/
def integerOf? (item : List Char) : Option Int :=
  Decimal.integer? (((item.dropWhile (· ≠ '(')).drop 1).takeWhile (· ≠ ')'))

theorem decide_ne_of_mem {a : Char} (h : ch ∉ x) (ha : a ∈ x) : decide (a ≠ ch) = true := by
  rw [decide_eq_true_iff]
  rintro rfl
  exact h ha

theorem takeWhile_append_cons (h : ch ∉ x) : (x ++ ch :: y).takeWhile (· ≠ ch) = x := by
  rw [List.takeWhile_append_of_pos fun _ => decide_ne_of_mem h]
  simp

theorem dropWhile_append_cons (h : ch ∉ x) : (x ++ ch :: y).dropWhile (· ≠ ch) = ch :: y := by
  rw [List.dropWhile_append_of_pos fun _ => decide_ne_of_mem h]
  simp

theorem toList_debug (c : Code) :
    c.debug.toList = c.label.toList ++ '(' :: (c.decimal.toList ++ [')']) := by
  simp [Code.debug, String.toList_append]

theorem opening_not_mem_label (c : Code) : '(' ∉ c.label.toList :=
  fun h => not_mem_marks_of_mem_label h (by decide)

theorem closing_not_mem_decimal (c : Code) : ')' ∉ c.decimal.toList :=
  fun h => not_mem_marks_of_mem_decimal h (by decide)

theorem labelOf_debug (c : Code) : labelOf c.debug.toList = c.label.toList := by
  rw [labelOf, toList_debug, takeWhile_append_cons (opening_not_mem_label c)]

theorem integerOf?_debug (c : Code) : integerOf? c.debug.toList = some c.value := by
  rw [integerOf?, toList_debug, dropWhile_append_cons (opening_not_mem_label c), List.drop_one,
    List.tail_cons, takeWhile_append_cons (closing_not_mem_decimal c), Code.decimal,
    Decimal.integer?_repr]

theorem readItem_debug (c : Code) : readItem c.debug.toList = some c := by
  have hopening := opening_not_mem_label c
  have hclosing := closing_not_mem_decimal c
  rw [readItem, toList_debug, dropWhile_append_cons hopening, takeWhile_append_cons hopening]
  simp only [takeWhile_append_cons hclosing, dropWhile_append_cons hclosing]
  simp [Code.decimal, Decimal.integer?_repr, Code.ofInt?_value]

/-! ## Items between commas -/

theorem items_append_comma (x y : List Char) : items (x ++ ',' :: y) = items x ++ items y := by
  unfold items
  rw [List.filter_append, List.filter_cons_of_pos (by decide), List.splitOn_eq_splitOnP,
    List.splitOnP_append_cons _ _ (by decide), List.filter_append]
  simp only [List.splitOn_eq_splitOnP]

theorem items_cons_space (x : List Char) : items (' ' :: x) = items x := by
  rw [items, List.filter_cons_of_neg (by decide), ← items]

theorem items_cons_newline (x : List Char) : items ('\n' :: x) = items x := by
  rw [items, List.filter_cons_of_neg (by decide), ← items]

theorem items_of_no_gaps (hne : x ≠ []) (h : ∀ ch ∈ x, ch ∉ gaps) : items x = [x] := by
  have hkept : x.filter (fun ch => ch ≠ ' ' ∧ ch ≠ '\n') = x := by
    rw [List.filter_eq_self]
    intro ch hch
    have hgap := h ch hch
    simp only [gaps, List.mem_cons, not_or] at hgap
    exact decide_eq_true ⟨hgap.2.1, hgap.2.2.1⟩
  have hcomma : ',' ∉ x := fun hx => h ',' hx (by decide)
  rw [items, hkept, List.splitOn_eq_singleton hcomma]
  simpa using hne

theorem items_debug (c : Code) : items c.debug.toList = [c.debug.toList] := by
  have hgaps : gaps ⊆ marks := by decide
  apply items_of_no_gaps
  · simp [toList_debug]
  · intro ch hch
    simp only [toList_debug, List.mem_append, List.mem_cons, List.not_mem_nil, or_false] at hch
    rcases hch with hlabel | rfl | hnumber | rfl
    · exact fun hgap => not_mem_marks_of_mem_label hlabel (hgaps hgap)
    · decide
    · exact fun hgap => not_mem_marks_of_mem_decimal hnumber (hgaps hgap)
    · decide

theorem items_intercalate (cs : List Code) :
    items (", ".intercalate (cs.map Code.debug)).toList = cs.map fun c => c.debug.toList := by
  induction cs with
  | nil => rfl
  | cons c cs ih =>
    cases cs with
    | nil => simpa using items_debug c
    | cons d cs =>
      have htext : (", ".intercalate ((c :: d :: cs).map Code.debug)).toList =
          c.debug.toList ++ ',' :: ' ' :: (", ".intercalate ((d :: cs).map Code.debug)).toList := by
        simp [String.intercalate_cons_cons]
      rw [htext, items_append_comma, items_cons_space, ih, items_debug]
      rfl

/-- A listing on lines starts behind the newline of the line before, or of the bracket. -/
theorem items_lines (cs : List Code) :
    items ('\n' :: (String.join (cs.map fun c => "    " ++ c.debug ++ ",\n")).toList) =
      cs.map fun c => c.debug.toList := by
  induction cs with
  | nil => rfl
  | cons c cs ih =>
    have htext : (String.join ((c :: cs).map fun c => "    " ++ c.debug ++ ",\n")).toList =
        ' ' :: ' ' :: ' ' :: ' ' :: (c.debug.toList ++ ',' ::
          '\n' :: (String.join (cs.map fun c => "    " ++ c.debug ++ ",\n")).toList) := by
      simp [String.join_cons]
    rw [htext, items_cons_newline, items_cons_space, items_cons_space, items_cons_space,
      items_cons_space, items_append_comma, ih, items_debug]
    rfl

/-! ## Both layouts -/

/-- The items of a listing, found between its brackets. -/
def items? (text : String) : Option (List (List Char)) := (inner? text.toList).map items

theorem read_eq (text : String) : read text = (items? text).bind (·.mapM readItem) := by
  rw [read, items?]
  cases inner? text.toList <;> rfl

theorem inner?_brackets (x : List Char) : inner? ('[' :: (x ++ [']'])) = some x := by
  simp [inner?]

theorem items?_inline (cs : List Code) :
    items? (inline cs) = some (cs.map fun c => c.debug.toList) := by
  have htext : (inline cs).toList =
      '[' :: ((", ".intercalate (cs.map Code.debug)).toList ++ [']']) := by
    simp [inline]
  rw [items?, htext, inner?_brackets, Option.map_some, items_intercalate]

theorem items?_block (cs : List Code) :
    items? (block cs) = some (cs.map fun c => c.debug.toList) := by
  cases cs with
  | nil => rfl
  | cons c cs =>
    have htext : (block (c :: cs)).toList =
        '[' :: ('\n' :: (String.join ((c :: cs).map fun c => "    " ++ c.debug ++ ",\n")).toList ++
          [']']) := by
      simp [block]
    rw [items?, htext, inner?_brackets, Option.map_some, items_lines]

theorem items?_of_layout (h : write ∈ [inline, block]) (cs : List Code) :
    items? (write cs) = some (cs.map fun c => c.debug.toList) := by
  simp only [List.mem_cons, List.not_mem_nil, or_false] at h
  rcases h with rfl | rfl
  · exact items?_inline cs
  · exact items?_block cs

theorem mapM_debug {α : Type} {f : List Char → Option α} {g : Code → α}
    (h : ∀ c, f c.debug.toList = some (g c)) (cs : List Code) :
    (cs.map fun c => c.debug.toList).mapM f = some (cs.map g) := by
  have hpure : f ∘ (fun c : Code => c.debug.toList) = fun c => pure (g c) := funext h
  rw [List.mapM_map, hpure, List.mapM_pure]
  rfl

theorem read_of_layout (h : write ∈ [inline, block]) (cs : List Code) :
    read (write cs) = some cs := by
  rw [read_eq, items?_of_layout h, Option.bind_some, mapM_debug readItem_debug, List.map_id']

theorem layout_inj (h : write ∈ [inline, block]) : write cs = write ds ↔ cs = ds := by
  constructor
  · intro htext
    have hcs := read_of_layout h cs
    rw [htext, read_of_layout h ds] at hcs
    exact (Option.some.inj hcs).symm
  · exact congrArg write

theorem layout_nil (h : write ∈ [inline, block]) : write [] = "[]" := by
  simp only [List.mem_cons, List.not_mem_nil, or_false] at h
  rcases h with rfl | rfl <;> rfl

theorem label_eq (c : Code) :
    c.label = match c.name with
      | .ok n => n
      | .error _ => "TokenCode" := by
  rw [Code.label, Code.name]
  cases c.name? <;> rfl

/-- **A listing loses nothing in either layout.** One reader finds the codes again, by the integers
between the parentheses of the items. Before them stands the name, or `TokenCode` where there is
none. Only no codes make an empty listing. -/
theorem layouts_read_back :
    ∀ write ∈ [inline, block],
      (∀ cs ds, write cs = write ds ↔ cs = ds) ∧
      (∀ cs, read (write cs) = some cs ∧
        ∃ found, items? (write cs) = some found ∧
          found.mapM integerOf? = some (cs.map Code.value) ∧
          found.map (String.ofList ∘ labelOf) = cs.map fun c =>
            match c.name with
            | .ok n => n
            | .error _ => "TokenCode") ∧
      ∀ cs, write cs = "[]" ↔ cs = [] := by
  intro write hwrite
  refine ⟨?_, ?_, ?_⟩
  · intro cs ds
    exact layout_inj hwrite
  · intro cs
    refine ⟨read_of_layout hwrite cs, _, items?_of_layout hwrite cs, ?_, ?_⟩
    · exact mapM_debug integerOf?_debug cs
    · simp only [List.map_map, Function.comp_def, labelOf_debug, String.ofList_toList, label_eq]
  · intro cs
    rw [← layout_nil hwrite, layout_inj hwrite]

/-- A code with a name and one without, on lines of their own. -/
theorem read_lines_of_two :
    block [⟨162⟩, ⟨-7⟩] = "[\n    GENEXPR(162),\n    TokenCode(-7),\n]" ∧
      read "[\n    GENEXPR(162),\n    TokenCode(-7),\n]" = some [⟨162⟩, ⟨-7⟩] := by
  have hgen : (⟨162⟩ : Code).debug = "GENEXPR(162)" :=
    Code.debug_of_name? (Code.name?_eq_some_iff.mpr (List.mem_of_getElem? (i := 163) rfl))
  have hnone : (⟨-7⟩ : Code).debug = "TokenCode(-7)" :=
    Code.debug_of_name?_eq_none (Code.name?_eq_none_iff.mpr (Or.inl (by decide)))
  have htext : block [⟨162⟩, ⟨-7⟩] = "[\n    GENEXPR(162),\n    TokenCode(-7),\n]" := by
    simp only [block, List.map_cons, List.map_nil, hgen, hnone]
    rfl
  have hread := ((layouts_read_back block (by simp)).2.1 [⟨162⟩, ⟨-7⟩]).1
  rw [htext] at hread
  exact ⟨htext, hread⟩

end ScriptLexicon.Listing
