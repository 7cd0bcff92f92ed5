import Mathlib
import ScriptLexicon.Proofs.ReservedWord
import ScriptLexicon.Proofs.TokenName

/-!
# Reserved words and names

A reserved word with a token of its own is the name of the token in lowercase; only `delete` has
another name. Read the other way, a name in lowercase is its token's word or no word at all, except
that `GOTO` names an operation while `goto` is kept for later editions.
-/

namespace ScriptLexicon.ReservedWord

variable {text n : String} {c d : Code}

/-! ## From words to names -/

theorem value_of_mem_vocabulary :
    ∀ c ∈ vocabulary.map Prod.snd, (-1 ≤ c.value ∧ c.value ≤ 162) ∧ c.isAssignment = false := by
  decide

/-- The names are listed in the order of their codes, so each stands at the position of its code. -/
theorem named_of_mem_oneWord :
    ∀ entry ∈ oneWord, entry = (Token.deleteProp, "delete") ∨
      Token.named[(entry.1.value + 1).toNat]? = some (entry.1, entry.2.toUpper) := by
  decide +kernel

theorem resolve?_cases (h : resolve? text = some c) :
    (text ∈ future ∧ c = Token.reserved) ∨ (c = Token.deleteProp ∧ text = "delete") ∨
      c.name? = some text.toUpper := by
  rw [resolve?_eq_some_iff, mem_vocabulary_iff] at h
  rcases h with hone | hfuture
  · rcases named_of_mem_oneWord _ hone with hdelete | hnamed
    · exact Or.inr (Or.inl (Prod.mk.inj hdelete))
    · exact Or.inr (Or.inr (Code.name?_eq_some_iff.mpr (List.mem_of_getElem? hnamed)))
  · exact Or.inl hfuture

theorem value_of_resolve? (h : resolve? text = some c) :
    (-1 ≤ c.value ∧ c.value ≤ 162) ∧ c.isAssignment = false :=
  value_of_mem_vocabulary c (List.mem_map_of_mem (resolve?_eq_some_iff.mp h))

/-! ## From names to words -/

theorem toUpper_toLower_of_isNameLetter {ch : Char} (h : isNameLetter ch = true) :
    ch.toLower.toUpper = ch := by
  have hlower : ¬ ch.isLower := by
    rw [isNameLetter, Bool.or_eq_true, decide_eq_true_iff] at h
    rcases h with hupper | rfl
    · intro hlower
      simp only [Char.isLower, Char.isUpper, Bool.and_eq_true, decide_eq_true_iff, ge_iff_le,
        UInt32.le_iff_toNat_le] at hupper hlower
      have ha : 'a'.val.toNat = 97 := rfl
      have hZ : 'Z'.val.toNat = 90 := rfl
      omega
    · decide
  rw [Char.toUpper_toLower_eq_toUpper, Char.toUpper_eq_of_not_isLower hlower]

theorem toUpper_toLower_of_name? (h : c.name? = some n) : n.toLower.toUpper = n := by
  have hletters := (Code.isNameLetter_of_mem_name? h).2
  apply String.toList_inj.mp
  rw [String.toUpper, String.toLower, String.toList_map, String.toList_map, List.map_map]
  conv_rhs => rw [← List.map_id n.toList]
  apply List.map_congr_left
  intro ch hch
  exact toUpper_toLower_of_isNameLetter (hletters ch hch)

theorem name?_goto : Token.goto.name? = some "GOTO" :=
  Code.name?_eq_some_iff.mpr (List.mem_of_getElem? (i := 6) rfl)

/-- Of the words that do not echo a name, only one is a name by accident. -/
theorem unnamed_of_mem :
    ∀ text ∈ "delete" :: future, text = "goto" ∨
      bytesKey text.toUpper ∉ Token.named.map fun entry => bytesKey entry.2 := by
  decide +kernel

theorem eq_goto_of_mem (hc : c.name? = some n) (h : n.toLower ∈ "delete" :: future) :
    c = Token.goto := by
  have hupper := toUpper_toLower_of_name? hc
  rcases unnamed_of_mem _ h with hgoto | hnone
  · have hn : n = "GOTO" := by
      rw [← hupper, hgoto]
      cbv
    rw [hn] at hc
    exact Code.name?_inj hc name?_goto
  · rw [hupper] at hnone
    exact absurd (List.mem_map_of_mem (Code.name?_eq_some_iff.mp hc)) hnone

theorem resolve?_toLower_of_name? (hc : c.name? = some n) (hne : c ≠ Token.goto) :
    resolve? n.toLower = none ∨ resolve? n.toLower = some c := by
  cases hd : resolve? n.toLower with
  | none => exact Or.inl rfl
  | some d =>
    rcases resolve?_cases hd with ⟨hfuture, -⟩ | ⟨-, hdelete⟩ | hname
    · exact absurd (eq_goto_of_mem hc (List.mem_cons_of_mem _ hfuture)) hne
    · exact absurd (eq_goto_of_mem hc (hdelete ▸ List.mem_cons_self)) hne
    · rw [toUpper_toLower_of_name? hc] at hname
      rw [Code.name?_inj hname hc]
      exact Or.inr rfl

/-- **Words and names tell the same story.** A reserved word stands for a code with a name that is
no assignment, and the name is the word in uppercase unless the word shares its code or is `delete`.
A name in lowercase is the word of its own code or no word, unless it is that of `goto`. -/
theorem words_and_names_cohere :
    (∀ text c, resolve? text = some c →
      c.inSpace = true ∧ c ≠ Token.last ∧ c.isAssignment = false ∧
        ∃ n, c.name = .ok n ∧
          (c = Token.reserved ∨ (c = Token.deleteProp ∧ text = "delete") ∨ n = text.toUpper)) ∧
    (∀ c n, c.name = .ok n → c ≠ Token.goto →
      resolve? n.toLower = none ∨ resolve? n.toLower = some c) ∧
    Token.goto.name = .ok "GOTO" ∧ "goto" ∈ future ∧
      resolve? "GOTO".toLower = some Token.reserved ∧ Token.reserved ≠ Token.goto := by
  have hlower : "GOTO".toLower = "goto" := by cbv
  have hfuture : "goto" ∈ future := by decide
  refine ⟨?_, ?_, Code.name_eq_ok_iff.mpr name?_goto, hfuture, ?_, by decide⟩
  · intro text c h
    obtain ⟨hvalue, hassign⟩ := value_of_resolve? h
    obtain ⟨n, hn⟩ := Code.exists_name_iff.mpr hvalue
    have hlast : c ≠ Token.last := by
      rintro rfl
      exact absurd hvalue (by decide)
    refine ⟨Code.inSpace_iff.mpr (by omega), hlast, hassign, n, hn, ?_⟩
    rcases resolve?_cases h with ⟨-, hreserved⟩ | hdelete | hname
    · exact Or.inl hreserved
    · exact Or.inr (Or.inl hdelete)
    · rw [Code.name_eq_ok_iff, hname] at hn
      exact Or.inr (Or.inr (Option.some.inj hn).symm)
  · intro c n hc hne
    exact resolve?_toLower_of_name? (Code.name_eq_ok_iff.mp hc) hne
  · rw [resolve?_eq_some_iff, mem_vocabulary_iff, hlower]
    exact Or.inr ⟨hfuture, rfl⟩

/-- The word with another name, and a name whose word is found. -/
theorem delete_and_while_cohere :
    resolve? "delete" = some Token.deleteProp ∧ Token.deleteProp.isAssignment = false ∧
      Token.while.name = .ok "WHILE" ∧ Token.while ≠ Token.goto ∧
      (resolve? "WHILE".toLower = none ∨ resolve? "WHILE".toLower = some Token.while) := by
  obtain ⟨hwords, hnames, -⟩ := words_and_names_cohere
  have hdelete : resolve? "delete" = some Token.deleteProp :=
    resolve?_eq_some_iff.mpr (List.mem_of_getElem? (i := 4) rfl)
  have hwhile : Token.while.name = .ok "WHILE" :=
    Code.name_eq_ok_iff.mpr (Code.name?_eq_some_iff.mpr (List.mem_of_getElem? (i := 118) rfl))
  have hne : Token.while ≠ Token.goto := by decide
  exact ⟨hdelete, (hwords _ _ hdelete).2.2.1, hwhile, hne, hnames _ _ hwhile hne⟩

end ScriptLexicon.ReservedWord
