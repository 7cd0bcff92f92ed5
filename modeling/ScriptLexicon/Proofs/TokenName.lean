import ScriptLexicon.Proofs.NameTable
import ScriptLexicon.Token.Identifier

/-!
# Names and identifiers of tokens

A code has a name exactly when it lies between `Token.error` and the code before `Token.last`,
and its name is then its identifier: every name belongs to one code, and every code to one name.
-/

open ScriptLexicon.Association ScriptLexicon.NameTable

namespace ScriptLexicon

variable {c d : Code} {s n : String}

/-! ## The list of names -/

def isNameLetter (ch : Char) : Bool := ch.isUpper || ch = '_'

/-- The identifiers that are not the name of a code. -/
def Token.nameless : List String := [
  "LAST_TOKEN", "FIRST_BYTECODE_TOKEN", "LAST_BYTECODE_TOKEN", "FIRST_ASSIGN", "LAST_ASSIGN",
  "COUNT"]

/-- What a code and its name look like. -/
structure WellNamed (entry : Code × String) : Prop where
  value : -1 ≤ entry.1.value ∧ entry.1.value ≤ 162
  nonempty : entry.2.toList ≠ []
  letters : entry.2.toList.all isNameLetter = true
  proper : entry.2 ∉ Token.nameless

instance (entry : Code × String) : Decidable (WellNamed entry) :=
  decidable_of_iff ((-1 ≤ entry.1.value ∧ entry.1.value ≤ 162) ∧ entry.2.toList ≠ [] ∧
      entry.2.toList.all isNameLetter = true ∧ entry.2 ∉ Token.nameless)
    ⟨fun ⟨hvalue, hne, hletters, hproper⟩ => ⟨hvalue, hne, hletters, hproper⟩,
      fun h => ⟨h.value, h.nonempty, h.letters, h.proper⟩⟩

theorem wellNamed_of_mem : ∀ entry ∈ Token.named, WellNamed entry := by
  decide +kernel

/-! ## The name of a code -/

theorem Code.name?_eq_some_iff : c.name? = some n ↔ (c, n) ∈ Token.named :=
  find?_ofList? ofList?_named

theorem Code.name_eq_ok_iff : c.name = .ok n ↔ c.name? = some n := by
  unfold Code.name
  cases c.name? <;> simp

theorem Code.name_eq_error_iff {e : UnknownCode} :
    c.name = .error e ↔ c.name? = none ∧ e = ⟨c⟩ := by
  unfold Code.name
  cases c.name? <;> simp [eq_comm]

theorem Token.value_of_mem_named (h : (c, n) ∈ Token.named) : -1 ≤ c.value ∧ c.value ≤ 162 :=
  (wellNamed_of_mem _ h).value

theorem Code.exists_name?_iff : (∃ n, c.name? = some n) ↔ -1 ≤ c.value ∧ c.value ≤ 162 := by
  constructor
  · rintro ⟨n, h⟩
    exact Token.value_of_mem_named (name?_eq_some_iff.mp h)
  · rintro ⟨hlo, hhi⟩
    obtain ⟨n, h⟩ := exists_name_of_ofList? ofList?_named hlo hhi
    exact ⟨n, name?_eq_some_iff.mpr h⟩

theorem Code.exists_name_iff : (∃ n, c.name = .ok n) ↔ -1 ≤ c.value ∧ c.value ≤ 162 := by
  simp only [name_eq_ok_iff]
  exact exists_name?_iff

theorem Code.name?_eq_none_iff : c.name? = none ↔ c.value < -1 ∨ 162 < c.value := by
  rw [← not_iff_not, ← ne_eq, Option.ne_none_iff_exists', exists_name?_iff]
  omega

theorem Code.isNameLetter_of_mem_name? (h : c.name? = some n) :
    n.toList ≠ [] ∧ ∀ ch ∈ n.toList, isNameLetter ch = true := by
  have hentry := wellNamed_of_mem _ (name?_eq_some_iff.mp h)
  exact ⟨hentry.nonempty, List.all_eq_true.mp hentry.letters⟩

/-! ## The code of an identifier -/

/-- The bytes of a text as one number. Numbers are compared faster than texts. -/
def bytesKey (s : String) : Nat :=
  s.toByteArray.data.toList.foldl (fun acc b => 256 * acc + b.toNat) 0

namespace Token

theorem nodup_identifiers : ((identifiers ++ markers).map Prod.fst).Nodup := by
  apply List.Nodup.of_map bytesKey
  decide +kernel

theorem find?_eq_some_iff : find? s = some c ↔ (s, c) ∈ identifiers ++ markers :=
  lookup_eq_some_iff (singleValued_of_nodup nodup_identifiers)

theorem identifiers_eq : identifiers = named.map Prod.swap ++ [("LAST_TOKEN", last)] := by
  decide +kernel

theorem find?_of_mem_named (h : (c, n) ∈ named) : find? n = some c := by
  rw [find?_eq_some_iff, identifiers_eq, List.append_assoc]
  exact List.mem_append_left _ (List.mem_map_of_mem h)

/-- The identifier has the value of the code, and is that of a token. -/
def Identifies (s : String) (c : Code) : Prop := constant? s = some c.value ∧ s ∉ nameless

theorem constant?_eq_some_value_iff (hs : s ∉ nameless) :
    constant? s = some c.value ↔ find? s = some c := by
  have hcount : s ≠ "COUNT" := by
    rintro rfl
    exact hs (by decide)
  rw [constant?, if_neg hcount]
  constructor
  · intro h
    obtain ⟨d, hd, hvalue⟩ := Option.map_eq_some_iff.mp h
    rw [hd, Code.value_inj.mp hvalue]
  · intro h
    rw [h, Option.map_some]

theorem not_mem_nameless (h : (c, n) ∈ named) : n ∉ nameless := (wellNamed_of_mem _ h).proper

theorem mem_named_of_find? (h : find? s = some c) (hs : s ∉ nameless) : (c, s) ∈ named := by
  rw [find?_eq_some_iff, identifiers_eq, List.append_assoc, List.mem_append] at h
  rcases h with h | h
  · obtain ⟨entry, hentry, heq⟩ := List.mem_map.mp h
    rw [← Prod.swap_swap entry, heq] at hentry
    exact hentry
  · -- What is left are the entries of the other identifiers.
    have hrest : ∀ entry ∈ [("LAST_TOKEN", last)] ++ markers, entry.1 ∈ nameless := by decide
    exact absurd (hrest _ h) hs

theorem identifies_iff : Identifies s c ↔ (c, s) ∈ named := by
  unfold Identifies
  constructor
  · rintro ⟨hvalue, hs⟩
    exact mem_named_of_find? ((constant?_eq_some_value_iff hs).mp hvalue) hs
  · intro h
    have hs := not_mem_nameless h
    exact ⟨(constant?_eq_some_value_iff hs).mpr (find?_of_mem_named h), hs⟩

end Token

theorem Code.name?_iff_identifies : c.name? = some s ↔ Token.Identifies s c := by
  rw [Code.name?_eq_some_iff, Token.identifies_iff]

theorem Code.name?_inj (hc : c.name? = some n) (hd : d.name? = some n) : c = d := by
  have hc := Token.find?_of_mem_named (Code.name?_eq_some_iff.mp hc)
  have hd := Token.find?_of_mem_named (Code.name?_eq_some_iff.mp hd)
  exact Option.some.inj (hc.symm.trans hd)

theorem Token.existsUnique_identifies_iff :
    (∃! s, Identifies s c) ↔ -1 ≤ c.value ∧ c.value ≤ 162 := by
  rw [← Code.exists_name?_iff]
  constructor
  · rintro ⟨s, hs, -⟩
    exact ⟨s, Code.name?_iff_identifies.mpr hs⟩
  · rintro ⟨s, hs⟩
    refine ⟨s, Code.name?_iff_identifies.mp hs, ?_⟩
    intro t ht
    exact Option.some.inj ((Code.name?_iff_identifies.mpr ht).symm.trans hs)

theorem Code.name_eq_error_self_iff : c.name = .error ⟨c⟩ ↔ c.value < -1 ∨ 162 < c.value := by
  rw [name_eq_error_iff, name?_eq_none_iff]
  simp

/-- **Names and identifiers are mutually inverse.** The codes from -1 to 162 have one identifier
each, which is their name, and all other codes have neither. -/
theorem Code.name_identifies_inverse (c : Code) :
    (∀ s, c.name = .ok s ↔ Token.Identifies s c) ∧
    (c.name = .error ⟨c⟩ ↔ ¬ ∃ s, Token.Identifies s c) ∧
    (c.name = .error ⟨c⟩ ↔ c.value < -1 ∨ 162 < c.value) ∧
    ((∃! s, Token.Identifies s c) ↔ -1 ≤ c.value ∧ c.value ≤ 162) ∧
    ∀ d s, c.name = .ok s → d.name = .ok s → c = d := by
  refine ⟨?_, ?_, name_eq_error_self_iff, Token.existsUnique_identifies_iff, ?_⟩
  · intro s
    rw [name_eq_ok_iff, name?_iff_identifies]
  · simp only [← name?_iff_identifies, exists_name?_iff, name_eq_error_self_iff]
    omega
  · intro d s hc hd
    rw [name_eq_ok_iff] at hc hd
    exact name?_inj hc hd

theorem Code.inverse_add :
    (⟨21⟩ : Code).name = .ok "ADD" ∧ Token.add.name = .ok "ADD" ∧ ⟨21⟩ = Token.add := by
  have hraw : (⟨21⟩ : Code).name = .ok "ADD" :=
    name_eq_ok_iff.mpr (name?_eq_some_iff.mpr (by decide +kernel))
  have hadd : Token.add.name = .ok "ADD" :=
    name_eq_ok_iff.mpr (name?_eq_some_iff.mpr (by decide +kernel))
  exact ⟨hraw, hadd, (Code.name_identifies_inverse ⟨21⟩).2.2.2.2 _ _ hraw hadd⟩

end ScriptLexicon
