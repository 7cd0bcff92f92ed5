/-!
# The shortest decimal of a double

A decimal reads back to a double when it lies in the interval of reals that round to it. Of the
decimals that read back, the one with the fewest digits is taken, and of those with equally many
the one nearest to the double. All comparisons are exact, in natural numbers.
-/

namespace ScriptLexicon.Decimal

/-- A finite double without its sign: `significand * 2 ^ exponent`. -/
structure Binary where
  significand : Nat
  exponent : Int
  /-- The next double below is half as far away as the next one above. -/
  tightBelow : Bool

/-- A decimal without a sign: `digits * 10 ^ exponent`. -/
structure Scaled where
  digits : Nat
  exponent : Int

namespace Binary

/-- The fields of a double: 52 bits of fraction, 11 bits of exponent, and the sign bit on top. -/
def ofBits (bits : UInt64) : Binary :=
  let fraction := bits.toNat % Nat.pow 2 52
  let exponent : Nat := bits.toNat / Nat.pow 2 52 % Nat.pow 2 11
  if exponent = 0 then ⟨fraction, -1074, false⟩
  else ⟨Nat.pow 2 52 + fraction, (exponent : Int) - 1075, fraction = 0 ∧ 1 < exponent⟩

/-!
Ends of intervals are counted in quarters of `2 ^ exponent`. On the grid of multiples of
`10 ^ g`, such a count and a multiple are compared after both are cleared of fractions.
-/

def quarters (b : Binary) : Nat := 4 * b.significand

/-- The midpoint with the next double below. -/
def lower (b : Binary) : Nat := b.quarters - if b.tightBelow then 1 else 2

/-- The midpoint with the next double above. -/
def upper (b : Binary) : Nat := b.quarters + 2

def clearQuarters (b : Binary) (g : Int) (count : Nat) : Nat :=
  count * Nat.pow 2 (b.exponent - 2).toNat * Nat.pow 10 (-g).toNat

def clearMultiple (b : Binary) (g : Int) (multiple : Nat) : Nat :=
  multiple * Nat.pow 10 g.toNat * Nat.pow 2 (2 - b.exponent).toNat

/-- Midpoints round to the double with the even significand. -/
def readsBack (b : Binary) (d : Scaled) : Bool :=
  let x := b.clearMultiple d.exponent d.digits
  let lo := b.clearQuarters d.exponent b.lower
  let hi := b.clearQuarters d.exponent b.upper
  if b.significand % 2 = 0 then lo ≤ x ∧ x ≤ hi else lo < x ∧ x < hi

/-- The power of ten of the first digit. -/
def leadingPower (b : Binary) : Int :=
  let numerator := b.clearQuarters 0 b.quarters
  let denominator := b.clearMultiple 0 1
  if denominator ≤ numerator then (Nat.toDigits 10 (numerator / denominator)).length - 1
  else -((Nat.toDigits 10 ((denominator - 1) / numerator)).length : Int)

/-- The largest multiple of `10 ^ g` up to the double. -/
def floorAt (b : Binary) (g : Int) : Nat := b.clearQuarters g b.quarters / b.clearMultiple g 1

/-- Of two neighbouring multiples the nearer; halfway between them, the even one. -/
def nearer (b : Binary) (g : Int) (below : Nat) : Nat :=
  let twice := 2 * b.clearQuarters g b.quarters
  let middle := b.clearMultiple g (2 * below + 1)
  if twice < middle then below
  else if middle < twice then below + 1
  else if below % 2 = 0 then below else below + 1

/-- The multiple of `10 ^ g` that reads back and lies nearest, if one reads back. -/
def onGrid? (b : Binary) (g : Int) : Option Scaled :=
  let below : Scaled := ⟨b.floorAt g, g⟩
  let above : Scaled := ⟨b.floorAt g + 1, g⟩
  match b.readsBack below, b.readsBack above with
  | true, true => some ⟨b.nearer g below.digits, g⟩
  | true, false => some below
  | false, true => some above
  | false, false => none

/-- The exact decimal, which always reads back. -/
def exact (b : Binary) : Scaled :=
  ⟨b.significand * Nat.pow 2 b.exponent.toNat * Nat.pow 5 (-b.exponent).toNat, min b.exponent 0⟩

/-- Seventeen digits are enough for every double. -/
def maxDigits : Nat := 17

/-- The nearest of the shortest decimals that read back. -/
def shortest (b : Binary) : Scaled :=
  ((List.range maxDigits).findSome? fun (n : Nat) =>
    b.onGrid? (b.leadingPower - n)).getD b.exact

end Binary

end ScriptLexicon.Decimal
