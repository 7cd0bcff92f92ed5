import ScriptLexicon.Proofs.Ordering

/-!
# Ranges in ascending lists

A range of codes takes up one block of an ascending list, after the smaller codes and before the
greater ones. The code space is a range, and so are the operations and the assignment operators,
which lie in the code space one after the other. All of these have names.
-/

namespace ScriptLexicon.Code

variable {c lo hi lo' hi' : Code} {cs : List Code} {p q : Code → Bool}

/-! ## Cutting an ascending list -/

theorem filter_lt_append_filter_ge (n : Int) (hcs : cs.Pairwise (· ≤ ·)) :
    cs.filter (·.value < n) ++ cs.filter (n ≤ ·.value) = cs := by
  have hrest : (cs.filter fun c => n ≤ c.value) = cs.filter fun c => !decide (c.value < n) := by
    simp only [← decide_not, Int.not_lt]
  have hperm : (cs.filter (·.value < n) ++ cs.filter (n ≤ ·.value)).Perm cs := by
    rw [hrest]
    exact List.filter_append_perm _ cs
  have hacross : ∀ a ∈ cs.filter (·.value < n), ∀ b ∈ cs.filter (n ≤ ·.value), a ≤ b := by
    intro a ha b hb
    rw [List.mem_filter, decide_eq_true_iff] at ha hb
    exact Int.le_trans (Int.le_of_lt ha.2) hb.2
  have hpairwise : (cs.filter (·.value < n) ++ cs.filter (n ≤ ·.value)).Pairwise (· ≤ ·) :=
    List.pairwise_append.mpr ⟨hcs.filter _, hcs.filter _, hacross⟩
  -- both sides are ascending arrangements of the same codes
  rw [eq_sorted_of_perm hperm hpairwise, sorted_of_pairwise hcs]

theorem filter_filter_of_imp (h : ∀ c, p c = true → q c = true) :
    (cs.filter q).filter p = cs.filter p := by
  rw [List.filter_filter]
  apply List.filter_congr
  intro c _
  cases hp : p c with
  | false => rfl
  | true => rw [h c hp, Bool.and_self]

/-- The codes of a range stand together, after all smaller and before all greater codes. -/
theorem cut_at_range (hle : lo ≤ hi) (hcs : cs.Pairwise (· ≤ ·)) :
    cs.filter (· < lo) ++ cs.filter (·.between lo hi) ++ cs.filter (hi < ·) = cs := by
  have hrest : (cs.filter fun c => lo.value ≤ c.value).Pairwise (· ≤ ·) := hcs.filter _
  have hwithin : ((cs.filter fun c => lo.value ≤ c.value).filter fun c => c.value < hi.value + 1) =
      cs.filter (·.between lo hi) := by
    rw [List.filter_filter]
    apply List.filter_congr
    intro c _
    rw [Bool.eq_iff_iff, between_iff, Bool.and_eq_true, decide_eq_true_iff, decide_eq_true_iff]
    omega
  have hbeyond : ((cs.filter fun c => lo.value ≤ c.value).filter fun c => hi.value + 1 ≤ c.value) =
      cs.filter (hi < ·) := by
    apply filter_filter_of_imp
    intro c h
    rw [decide_eq_true_iff] at h ⊢
    exact Int.le_trans hle (Int.le_of_lt h)
  calc cs.filter (· < lo) ++ cs.filter (·.between lo hi) ++ cs.filter (hi < ·)
      = cs.filter (· < lo) ++ cs.filter (fun c => lo.value ≤ c.value) := by
        rw [List.append_assoc, ← hwithin, ← hbeyond, filter_lt_append_filter_ge _ hrest]
    _ = cs := filter_lt_append_filter_ge lo.value hcs

/-- Of two ranges the one with the smaller codes stands first. -/
theorem cut_at_ranges (hle : lo ≤ hi) (hgap : hi < lo') (hle' : lo' ≤ hi')
    (hcs : cs.Pairwise (· ≤ ·)) :
    ∃ before middle after : List Code,
      cs = before ++ cs.filter (·.between lo hi) ++ middle ++ cs.filter (·.between lo' hi') ++
        after ∧
      (∀ c ∈ before, c < lo) ∧ (∀ c ∈ middle, hi < c ∧ c < lo') ∧ ∀ c ∈ after, hi' < c := by
  have hrest : (cs.filter fun c => hi < c).Pairwise (· ≤ ·) := hcs.filter _
  have hsecond : ((cs.filter fun c => hi < c).filter fun c => c.between lo' hi') =
      cs.filter (·.between lo' hi') := by
    apply filter_filter_of_imp
    intro c h
    rw [between_iff] at h
    exact decide_eq_true (Int.lt_of_lt_of_le hgap h.1)
  refine ⟨cs.filter (· < lo), (cs.filter (hi < ·)).filter (· < lo'),
    (cs.filter (hi < ·)).filter (hi' < ·), ?_, ?_, ?_, ?_⟩
  · -- the second range is cut out of what the first one leaves behind it
    have hcut := (cut_at_range hle hcs).symm
    rw [← cut_at_range hle' hrest, hsecond] at hcut
    simpa only [List.append_assoc] using hcut
  · intro c hc
    exact of_decide_eq_true (List.mem_filter.mp hc).2
  · intro c hc
    rw [List.mem_filter, List.mem_filter, decide_eq_true_iff, decide_eq_true_iff] at hc
    exact ⟨hc.1.2, hc.2⟩
  · intro c hc
    exact of_decide_eq_true (List.mem_filter.mp hc).2

/-! ## The code space and its two ranges -/

theorem not_isOperation_and_isAssignment (c : Code) :
    ¬ (c.isOperation = true ∧ c.isAssignment = true) := by
  rw [isOperation_iff, isAssignment_iff]
  omega

theorem value_of_isOperation_or (h : c.isOperation = true ∨ c.isAssignment = true) :
    -1 ≤ c.value ∧ c.value ≤ 162 := by
  rw [isOperation_iff, isAssignment_iff] at h
  omega

theorem inSpace_of_isOperation_or (h : c.isOperation = true ∨ c.isAssignment = true) :
    c.inSpace = true := by
  have hvalue := value_of_isOperation_or h
  rw [inSpace_iff]
  omega

theorem neither_iff : (c.isOperation = false ∧ c.isAssignment = false) ↔
    c.value < 2 ∨ (80 < c.value ∧ c.value < 90) ∨ 101 < c.value := by
  rw [Bool.eq_false_iff, Bool.eq_false_iff, ne_eq, ne_eq, isOperation_iff, isAssignment_iff]
  omega

theorem cut_at_space (hcs : cs.Pairwise (· ≤ ·)) :
    ∃ below above : List Code, cs = below ++ cs.filter inSpace ++ above ∧
      ∀ c ∈ below ++ above, c.inSpace = false := by
  have hle : Token.error ≤ Token.last := by decide
  refine ⟨cs.filter (· < Token.error), cs.filter (Token.last < ·), (cut_at_range hle hcs).symm, ?_⟩
  intro c hc
  rw [List.mem_append, List.mem_filter, List.mem_filter, decide_eq_true_iff,
    decide_eq_true_iff] at hc
  rw [inSpace_eq_false_iff]
  exact hc.imp And.right And.right

theorem cut_space_at_kinds (hcs : cs.Pairwise (· ≤ ·)) :
    ∃ early middle late : List Code,
      cs.filter inSpace =
        early ++ cs.filter isOperation ++ middle ++ cs.filter isAssignment ++ late ∧
      ∀ c ∈ early ++ middle ++ late, c.isOperation = false ∧ c.isAssignment = false := by
  have hoperations : (cs.filter inSpace).filter isOperation = cs.filter isOperation :=
    filter_filter_of_imp fun _ h => inSpace_of_isOperation_or (Or.inl h)
  have hassignments : (cs.filter inSpace).filter isAssignment = cs.filter isAssignment :=
    filter_filter_of_imp fun _ h => inSpace_of_isOperation_or (Or.inr h)
  have hspace : (cs.filter inSpace).Pairwise (· ≤ ·) := hcs.filter _
  have hle : Token.firstOperation ≤ Token.lastOperation := by decide
  have hgap : Token.lastOperation < Token.firstAssignment := by decide
  have hle' : Token.firstAssignment ≤ Token.lastAssignment := by decide
  obtain ⟨early, middle, late, hcut, hearly, hmiddle, hlate⟩ := cut_at_ranges hle hgap hle' hspace
  refine ⟨early, middle, late, ?_, ?_⟩
  · rw [← hoperations, ← hassignments]
    exact hcut
  · intro c hc
    rw [List.mem_append, List.mem_append] at hc
    rw [neither_iff]
    rcases hc with (hc | hc) | hc
    · exact Or.inl (hearly c hc)
    · exact Or.inr (Or.inl (hmiddle c hc))
    · exact Or.inr (Or.inr (hlate c hc))

/-! ## Counting -/

theorem countP_between (lo hi : Code) (cs : List Code) : cs.countP (·.between lo hi) =
    (cs.map value).countP fun v => lo.value ≤ v ∧ v ≤ hi.value := by
  rw [List.countP_map]
  rfl

/-- Counting does not look at the order, so a list may be sorted first and its blocks counted. -/
theorem countP_kinds_le (cs : List Code) :
    cs.countP isOperation + cs.countP isAssignment ≤ cs.countP inSpace := by
  obtain ⟨early, middle, late, hcut, -⟩ := cut_space_at_kinds (pairwise_sorted cs)
  have hlength := congrArg List.length hcut
  simp only [List.length_append, ← List.countP_eq_length_filter] at hlength
  have hperm := sorted_perm cs
  rw [hperm.countP_eq, hperm.countP_eq, hperm.countP_eq] at hlength
  omega

/-- **The ranges cut ascending lists into blocks.** In an ascending list the codes of the code space
stand together, and among them the operations and, further on, the assignment operators. No code is
of both kinds, and every code of either lies in the code space and has a name. So in any list, in
any order, there are at most as many codes of the two kinds as codes of the code space. -/
theorem ranges_cut_ascending_lists :
    (∀ cs : List Code, cs.Pairwise (· ≤ ·) →
      ∃ below early middle late above : List Code,
        cs = below ++ cs.filter inSpace ++ above ∧
        cs.filter inSpace =
          early ++ cs.filter isOperation ++ middle ++ cs.filter isAssignment ++ late ∧
        (∀ c ∈ below ++ above, c.inSpace = false) ∧
        ∀ c ∈ early ++ middle ++ late, c.isOperation = false ∧ c.isAssignment = false) ∧
    (∀ c : Code, ¬ (c.isOperation = true ∧ c.isAssignment = true)) ∧
    (∀ c : Code, c.isOperation = true ∨ c.isAssignment = true →
      c.inSpace = true ∧ ∃ n, c.name = .ok n) ∧
    ∀ cs : List Code,
      cs.countP isOperation + cs.countP isAssignment ≤ cs.countP inSpace ∧
      cs.countP inSpace = (cs.map value).countP (fun v => -1 ≤ v ∧ v ≤ 163) ∧
      cs.countP isOperation = (cs.map value).countP (fun v => 2 ≤ v ∧ v ≤ 80) ∧
      cs.countP isAssignment = (cs.map value).countP (fun v => 90 ≤ v ∧ v ≤ 101) := by
  refine ⟨?_, not_isOperation_and_isAssignment, ?_, ?_⟩
  · intro cs hcs
    obtain ⟨below, above, hspace, houtside⟩ := cut_at_space hcs
    obtain ⟨early, middle, late, hkinds, hneither⟩ := cut_space_at_kinds hcs
    exact ⟨below, early, middle, late, above, hspace, hkinds, houtside, hneither⟩
  · intro c h
    exact ⟨inSpace_of_isOperation_or h, exists_name_iff.mpr (value_of_isOperation_or h)⟩
  · intro cs
    exact ⟨countP_kinds_le cs, countP_between Token.error Token.last cs,
      countP_between Token.firstOperation Token.lastOperation cs,
      countP_between Token.firstAssignment Token.lastAssignment cs⟩

/-- A list with the ends of the operations, an assignment operator and codes that are neither. -/
theorem ranges_cut_at_their_ends :
    ([⟨-2⟩, ⟨1⟩, ⟨2⟩, ⟨80⟩, ⟨81⟩, ⟨90⟩, ⟨102⟩, ⟨164⟩] : List Code).Pairwise (· ≤ ·) ∧
    (∃ below early middle late above : List Code,
      [⟨-2⟩, ⟨1⟩, ⟨2⟩, ⟨80⟩, ⟨81⟩, ⟨90⟩, ⟨102⟩, ⟨164⟩] =
        below ++ (early ++ [⟨2⟩, ⟨80⟩] ++ middle ++ [⟨90⟩] ++ late) ++ above ∧
      (∀ c ∈ below ++ above, c.inSpace = false) ∧
      ∀ c ∈ early ++ middle ++ late, c.isOperation = false ∧ c.isAssignment = false) ∧
    Token.assign.isAssignment = true ∧ Token.assign.inSpace = true ∧
      ∃ n, Token.assign.name = .ok n := by
  obtain ⟨hlists, -, hnamed, -⟩ := ranges_cut_ascending_lists
  have hascending :
      ([⟨-2⟩, ⟨1⟩, ⟨2⟩, ⟨80⟩, ⟨81⟩, ⟨90⟩, ⟨102⟩, ⟨164⟩] : List Code).Pairwise (· ≤ ·) := by decide
  obtain ⟨below, early, middle, late, above, hspace, hkinds, houtside, hneither⟩ :=
    hlists _ hascending
  rw [hkinds] at hspace
  exact ⟨hascending, ⟨below, early, middle, late, above, hspace, houtside, hneither⟩, rfl,
    hnamed Token.assign (Or.inr rfl)⟩

end ScriptLexicon.Code
