import ScriptLexicon.Token

/-!
# The code space

The codes from `Token.error` to `Token.last` make up the code space. `CodeSpace.accept` lets an
integer in when its code lies there, and names the code it turns away.
-/

namespace ScriptLexicon

namespace Code

def inSpace (c : Code) : Bool := c.between Token.error Token.last

def isOperation (c : Code) : Bool := c.between Token.firstOperation Token.lastOperation

def isAssignment (c : Code) : Bool := c.between Token.firstAssignment Token.lastAssignment

theorem inSpace_iff {c : Code} : c.inSpace = true ↔ -1 ≤ c.value ∧ c.value ≤ 163 :=
  between_iff

theorem inSpace_eq_false_iff {c : Code} : c.inSpace = false ↔ c.value < -1 ∨ 163 < c.value := by
  rw [Bool.eq_false_iff, ne_eq, inSpace_iff]
  omega

theorem isOperation_iff {c : Code} : c.isOperation = true ↔ 2 ≤ c.value ∧ c.value ≤ 80 :=
  between_iff

theorem isAssignment_iff {c : Code} : c.isAssignment = true ↔ 90 ≤ c.value ∧ c.value ≤ 101 :=
  between_iff

end Code

/-- A code that was looked up in vain. -/
structure UnknownCode where
  code : Code
deriving DecidableEq

namespace UnknownCode

def message (e : UnknownCode) : String := "unknown token code " ++ e.code.decimal

def inline (e : UnknownCode) : String := "UnknownToken \x7b code: " ++ e.code.decimal ++ " \x7d"

def block (e : UnknownCode) : String :=
  "UnknownToken \x7b\n    code: " ++ e.code.decimal ++ ",\n\x7d"

end UnknownCode

namespace CodeSpace

def size : Nat := (Token.last.value - Token.error.value).toNat + 1

/-- The code at a position, counted from `Token.error`. -/
def codeAt (i : Nat) : Code := ⟨Int32.ofInt (Token.error.value + i)⟩

def position? (c : Code) : Option Nat :=
  if c.inSpace then some (c.value - Token.error.value).toNat else none

/-- Whether an integer is the value of a code of the code space. -/
def contains (raw : Int32) : Bool := (Code.mk raw).inSpace

def accept (raw : Int32) : Except UnknownCode Code :=
  let c : Code := ⟨raw⟩
  if c.inSpace then .ok c else .error ⟨c⟩

theorem accept_of_inSpace {c : Code} (h : c.inSpace = true) : accept c.raw = .ok c := if_pos h

theorem accept_of_not_inSpace {c : Code} (h : c.inSpace = false) : accept c.raw = .error ⟨c⟩ :=
  if_neg (Bool.eq_false_iff.mp h)

theorem size_eq : size = 165 := rfl

theorem position?_eq_some_iff {c : Code} {i : Nat} :
    position? c = some i ↔ i < size ∧ c.value = (i : Int) - 1 := by
  have he : Token.error.value = -1 := rfl
  rw [size_eq, position?, he]
  split
  · rename_i h
    rw [Code.inSpace_iff] at h
    simp only [Option.some.injEq]
    omega
  · rename_i h
    rw [Code.inSpace_iff] at h
    simp only [reduceCtorEq, false_iff]
    omega

theorem value_codeAt {i : Nat} (h : i < size) : (codeAt i).value = (i : Int) - 1 := by
  rw [size_eq] at h
  have he : Token.error.value = -1 := rfl
  have hmin := Int32.toInt_minValue
  have hmax := Int32.toInt_maxValue
  rw [codeAt, Code.value_ofInt (by omega) (by omega)]
  omega

end CodeSpace

end ScriptLexicon
