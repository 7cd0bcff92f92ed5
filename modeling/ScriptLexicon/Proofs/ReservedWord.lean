import Mathlib.Data.List.Nodup
import ScriptLexicon.Proofs.Association
import ScriptLexicon.ReservedWord

/-!
# Resolving and spelling reserved words

`resolve?` finds what a plain search of the whole vocabulary finds: the guard turns no reserved
word away, and the words of each length are exactly the words of the vocabulary with that length.
Spelling and resolving undo each other, away from the tokens that are not written back.
-/

open ScriptLexicon.Association

namespace ScriptLexicon.ReservedWord

variable {text : String} {entry : String × Code} {c d : Code}

/-! ## The guard, in bytes -/

/-- The first byte of the text in UTF-8. -/
def firstByte? (text : String) : Option UInt8 := text.toByteArray.data[0]?

/-- A byte that stands for one of the letters `a` to `z`. -/
def isLowercaseByte (b : UInt8) : Bool := 97 ≤ b.toNat ∧ b.toNat ≤ 122

theorem isLowercase_iff {ch : Char} :
    isLowercase ch = true ↔ 97 ≤ ch.val.toNat ∧ ch.val.toNat ≤ 122 := by
  rw [isLowercase, decide_eq_true_iff, Char.le_def, Char.le_def, UInt32.le_iff_toNat_le,
    UInt32.le_iff_toNat_le]
  rfl

/-- Only a character of one byte starts with a byte below 128, and it is that byte. -/
theorem isLowercaseByte_head_utf8EncodeChar (ch : Char) :
    (String.utf8EncodeChar ch).head?.any isLowercaseByte = isLowercase ch := by
  rw [Bool.eq_iff_iff, isLowercase_iff]
  unfold String.utf8EncodeChar
  lift_lets
  intro v
  split_ifs with h1 h2 h3
  all_goals simp only [List.head?_cons, Option.any_some, isLowercaseByte, decide_eq_true_iff,
    UInt8.toNat_ofNat']
  all_goals omega

theorem firstByte?_eq_head? (text : String) :
    firstByte? text = (text.toList.flatMap String.utf8EncodeChar).head? := by
  rw [firstByte?, ← String.utf8Encode_toList, List.utf8Encode, List.data_toByteArray,
    List.getElem?_toArray, List.head?_eq_getElem?]

theorem any_firstByte? (text : String) :
    (firstByte? text).any isLowercaseByte = text.toList.head?.any isLowercase := by
  rw [firstByte?_eq_head?]
  cases text.toList with
  | nil => rfl
  | cons ch rest =>
    rw [List.flatMap_cons, List.head?_append_of_ne_nil _ String.utf8EncodeChar_ne_nil]
    exact isLowercaseByte_head_utf8EncodeChar ch

theorem looksReserved_iff :
    looksReserved text = true ↔ 2 ≤ text.utf8ByteSize ∧ text.utf8ByteSize ≤ 12 ∧
      (firstByte? text).any isLowercaseByte = true := by
  rw [any_firstByte?, looksReserved]
  simp only [Bool.and_eq_true, decide_eq_true_iff, and_assoc]

/-! ## The buckets -/

theorem nodup_words : (vocabulary.map Prod.fst).Nodup := by decide +kernel

theorem singleValued_vocabulary : SingleValued vocabulary := singleValued_of_nodup nodup_words

theorem mem_vocabulary_of_mem_ofLength {n : Nat} :
    ∀ entry ∈ ofLength n, entry ∈ vocabulary ∧ entry.1.utf8ByteSize = n := by
  unfold ofLength
  -- One case for each length that has a bucket, and one for all other lengths.
  split
  case h_11 => simp
  all_goals decide +kernel

theorem reached_of_mem_vocabulary :
    ∀ entry ∈ vocabulary,
      looksReserved entry.1 = true ∧ entry ∈ ofLength entry.1.utf8ByteSize := by
  decide +kernel

theorem mem_ofLength_iff {n : Nat} :
    entry ∈ ofLength n ↔ entry ∈ vocabulary ∧ entry.1.utf8ByteSize = n := by
  constructor
  · exact mem_vocabulary_of_mem_ofLength entry
  · rintro ⟨h, rfl⟩
    exact (reached_of_mem_vocabulary entry h).2

theorem looksReserved_of_mem (h : text ∈ vocabulary.map Prod.fst) : looksReserved text = true := by
  obtain ⟨entry, hentry, rfl⟩ := List.mem_map.mp h
  exact (reached_of_mem_vocabulary entry hentry).1

/-! ## Resolving -/

theorem resolve?_eq_lookup (text : String) : resolve? text = vocabulary.lookup text := by
  unfold resolve?
  split
  · apply lookup_eq_lookup singleValued_vocabulary
    · intro entry hentry
      exact (mem_ofLength_iff.mp hentry).1
    · intro c hc
      exact mem_ofLength_iff.mpr ⟨hc, rfl⟩
  · rename_i hguard
    -- The guard fails, so the text is no word of the vocabulary.
    exact (lookup_eq_none_iff.mpr fun h => hguard (looksReserved_of_mem h)).symm

theorem resolve?_eq_some_iff : resolve? text = some c ↔ (text, c) ∈ vocabulary := by
  rw [resolve?_eq_lookup, lookup_eq_some_iff singleValued_vocabulary]

theorem resolve?_eq_none_iff : resolve? text = none ↔ text ∉ vocabulary.map Prod.fst := by
  rw [resolve?_eq_lookup, lookup_eq_none_iff]

/-- **Resolving is a plain search.** Every text gets the answer that a search of the 61 entries
from the front gives it. Neither the guard nor the buckets lose or add a word. -/
theorem resolve?_eq_plain_search :
    vocabulary.length = 61 ∧ (vocabulary.map Prod.fst).Nodup ∧
    (∀ text, resolve? text = vocabulary.lookup text ∧
      (resolve? text = none ↔ text ∉ vocabulary.map Prod.fst)) ∧
    (∀ text ∈ vocabulary.map Prod.fst, 2 ≤ text.utf8ByteSize ∧ text.utf8ByteSize ≤ 12 ∧
      (firstByte? text).any isLowercaseByte = true) ∧
    ∀ n entry, entry ∈ ofLength n ↔ entry ∈ vocabulary ∧ entry.1.utf8ByteSize = n := by
  refine ⟨by decide +kernel, nodup_words, ?_, ?_, ?_⟩
  · intro text
    exact ⟨resolve?_eq_lookup text, resolve?_eq_none_iff⟩
  · intro text h
    exact looksReserved_iff.mp (looksReserved_of_mem h)
  · intro n entry
    exact mem_ofLength_iff

/-- The longest word of the vocabulary just passes the guard. -/
theorem guard_synchronized :
    "synchronized" ∈ vocabulary.map Prod.fst ∧ "synchronized".utf8ByteSize ≤ 12 := by
  have hmem : "synchronized" ∈ vocabulary.map Prod.fst := by decide +kernel
  exact ⟨hmem, (resolve?_eq_plain_search.2.2.2.1 _ hmem).2.1⟩

/-! ## Spelling -/

/-- The tokens that have one word only, each with its word. -/
def oneWord : List (Code × String) := spellings ++ moduleWords.map Prod.swap

theorem singleValued_oneWord : SingleValued oneWord :=
  singleValued_of_nodup (by decide +kernel)

theorem singleValued_spellings : SingleValued spellings :=
  singleValued_oneWord.of_subset (List.subset_append_left _ _)

theorem spelling?_eq_some_iff : c.spelling? = some text ↔ (c, text) ∈ spellings := by
  rw [Code.spelling?, lookup_eq_some_iff singleValued_spellings]

theorem mem_vocabulary_iff :
    (text, c) ∈ vocabulary ↔ (c, text) ∈ oneWord ∨ text ∈ future ∧ c = Token.reserved := by
  simp only [vocabulary, oneWord, List.mem_append, List.mem_map, Prod.mk.injEq, Prod.exists,
    Prod.swap_prod_mk]
  grind

theorem mem_spellings_iff :
    (c, text) ∈ spellings ↔
      (c, text) ∈ oneWord ∧ c ≠ Token.export ∧ c ≠ Token.import ∧ c ≠ Token.reserved := by
  have hspelled : ∀ entry ∈ spellings,
      entry.1 ≠ Token.export ∧ entry.1 ≠ Token.import ∧ entry.1 ≠ Token.reserved := by
    decide
  have hmodule : ∀ entry ∈ moduleWords.map Prod.swap,
      entry.1 = Token.export ∨ entry.1 = Token.import := by
    decide
  constructor
  · intro h
    exact ⟨List.mem_append_left _ h, hspelled _ h⟩
  · rintro ⟨h, hexport, himport, -⟩
    rcases List.mem_append.mp h with h | h
    · exact h
    · rcases hmodule _ h with h | h
      · exact absurd h hexport
      · exact absurd h himport

theorem spelling?_iff_resolve? :
    c.spelling? = some text ↔
      resolve? text = some c ∧ c ≠ Token.export ∧ c ≠ Token.import ∧ c ≠ Token.reserved := by
  rw [spelling?_eq_some_iff, resolve?_eq_some_iff, mem_spellings_iff, mem_vocabulary_iff]
  constructor
  · rintro ⟨h, hc⟩
    exact ⟨Or.inl h, hc⟩
  · rintro ⟨h | ⟨-, h⟩, hc⟩
    · exact ⟨h, hc⟩
    · exact absurd h hc.2.2

/-- Only the words kept for later editions share a token. -/
theorem eq_reserved_of_resolve? {other : String} (hne : text ≠ other)
    (htext : resolve? text = some c) (hother : resolve? other = some c) : c = Token.reserved := by
  rw [resolve?_eq_some_iff, mem_vocabulary_iff] at htext hother
  rcases htext with htext | ⟨-, h⟩
  · rcases hother with hother | ⟨-, h⟩
    · exact absurd (singleValued_oneWord c text other htext hother) hne
    · exact h
  · exact h

theorem spelling?_inj (hc : c.spelling? = some text) (hd : d.spelling? = some text) : c = d := by
  have hc := (spelling?_iff_resolve?.mp hc).1
  have hd := (spelling?_iff_resolve?.mp hd).1
  exact Option.some.inj (hc.symm.trans hd)

/-- **Spelling and resolving undo each other**, away from three tokens. -/
theorem spelling?_resolve?_inverse :
    (∀ (c : Code) (text : String), c.spelling? = some text ↔
      resolve? text = some c ∧ c ≠ Token.export ∧ c ≠ Token.import ∧ c ≠ Token.reserved) ∧
    (∀ (text other : String) (c : Code), text ≠ other → resolve? text = some c →
      resolve? other = some c → c = Token.reserved) ∧
    ∀ (c d : Code) (text : String), c.spelling? = some text → d.spelling? = some text → c = d := by
  refine ⟨?_, ?_, ?_⟩
  · intro c text
    exact spelling?_iff_resolve?
  · intro text other c
    exact eq_reserved_of_resolve?
  · intro c d text
    exact spelling?_inj

/-- `class` and `enum` share a code, so it is that of reserved words, and 31 is spelled `delete`. -/
theorem inverse_class_enum_delete :
    (resolve? "class" = some ⟨127⟩ ∧ resolve? "enum" = some ⟨127⟩ ∧ ⟨127⟩ = Token.reserved) ∧
      Code.spelling? ⟨31⟩ = some "delete" ∧ ⟨31⟩ = Token.deleteProp := by
  have hclass : resolve? "class" = some ⟨127⟩ := by decide +kernel
  have henum : resolve? "enum" = some ⟨127⟩ := by decide +kernel
  have hdelete : Code.spelling? ⟨31⟩ = some "delete" := by decide +kernel
  have hshared := spelling?_resolve?_inverse.2.1 _ _ _ (by decide) hclass henum
  have hown := spelling?_resolve?_inverse.2.2 _ Token.deleteProp _ hdelete (by decide +kernel)
  exact ⟨⟨hclass, henum, hshared⟩, hdelete, hown⟩

end ScriptLexicon.ReservedWord
