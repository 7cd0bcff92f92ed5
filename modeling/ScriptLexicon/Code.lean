/-!
# Codes

A code is a 32-bit integer that stands for a token or a tree node. Any such integer can be held
and compared, whether or not the lexicon gives it a meaning. Codes are ordered by their value, and
lists of them are sorted by value, never by name.
-/

namespace ScriptLexicon

structure Code where
  raw : Int32
deriving DecidableEq

namespace Code

def value (c : Code) : Int := c.raw.toInt

/-- The code of an integer, or `none` for an integer that needs more than 32 bits. -/
def ofInt? (n : Int) : Option Code :=
  if Int32.minValue.toInt ≤ n ∧ n ≤ Int32.maxValue.toInt then some ⟨Int32.ofInt n⟩ else none

def decimal (c : Code) : String := c.value.repr

instance : LE Code := ⟨fun a b => a.value ≤ b.value⟩

instance : LT Code := ⟨fun a b => a.value < b.value⟩

instance : Ord Code := ⟨fun a b => compare a.value b.value⟩

instance (a b : Code) : Decidable (a ≤ b) := inferInstanceAs (Decidable (a.value ≤ b.value))

instance (a b : Code) : Decidable (a < b) := inferInstanceAs (Decidable (a.value < b.value))

def between (c lo hi : Code) : Bool := lo ≤ c ∧ c ≤ hi

/-! ## The value determines the code -/

theorem value_inj {a b : Code} : a.value = b.value ↔ a = b := by
  cases a; cases b; simp [value, Int32.toInt_inj]

theorem le_iff {a b : Code} : a ≤ b ↔ a.value ≤ b.value := Iff.rfl

theorem lt_iff {a b : Code} : a < b ↔ a.value < b.value := Iff.rfl

theorem between_iff {c lo hi : Code} :
    c.between lo hi = true ↔ lo.value ≤ c.value ∧ c.value ≤ hi.value := by
  simp [between, le_iff]

theorem value_bounds (c : Code) :
    Int32.minValue.toInt ≤ c.value ∧ c.value ≤ Int32.maxValue.toInt :=
  ⟨c.raw.minValue_le_toInt, c.raw.toInt_le⟩

theorem value_ofInt {n : Int} (hlo : Int32.minValue.toInt ≤ n) (hhi : n ≤ Int32.maxValue.toInt) :
    (⟨Int32.ofInt n⟩ : Code).value = n :=
  Int32.toInt_ofInt_of_le hlo (Int.lt_add_one_of_le hhi)

theorem ofInt?_value (c : Code) : ofInt? c.value = some c := by
  obtain ⟨hlo, hhi⟩ := c.value_bounds
  rw [ofInt?, if_pos ⟨hlo, hhi⟩]
  simp only [Option.some.injEq]
  exact value_inj.1 (value_ofInt hlo hhi)

theorem ofInt?_eq_some_iff {n : Int} {c : Code} : ofInt? n = some c ↔ c.value = n := by
  constructor
  · intro h
    rw [ofInt?] at h
    split at h
    · rename_i hrange
      simp only [Option.some.injEq] at h
      rw [← h, value_ofInt hrange.1 hrange.2]
    · simp at h
  · rintro rfl
    exact ofInt?_value c

theorem exists_value_eq_iff {n : Int} :
    (∃ c : Code, c.value = n) ↔ -2147483648 ≤ n ∧ n ≤ 2147483647 := by
  constructor
  · rintro ⟨c, rfl⟩
    exact c.value_bounds
  · rintro ⟨hlo, hhi⟩
    exact ⟨_, value_ofInt hlo hhi⟩

theorem ofInt?_eq_none_iff {n : Int} : ofInt? n = none ↔ n < -2147483648 ∨ 2147483647 < n := by
  have hfits : n < -2147483648 ∨ 2147483647 < n ↔ ¬ ∃ c : Code, c.value = n := by
    rw [exists_value_eq_iff]
    omega
  rw [hfits, Option.eq_none_iff_forall_ne_some]
  simp only [ne_eq, ofInt?_eq_some_iff, not_exists]

/-! ## Order in lists -/

/-- How each code compares with the one after it. -/
def comparisons : List Code → List Ordering
  | a :: b :: rest => compare a b :: comparisons (b :: rest)
  | _ => []

def distinct (cs : List Code) : List Code := cs.eraseDups

def sorted (cs : List Code) : List Code := cs.mergeSort

/-- The codes that occur, in ascending order. -/
def members (cs : List Code) : List Code := sorted (distinct cs)

end Code

end ScriptLexicon
