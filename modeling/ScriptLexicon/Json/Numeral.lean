import ScriptLexicon.Json

/-!
# Numbers in JSON text

A numeral without fraction and exponent is an integer when it fits 64 bits, signed below zero and
unsigned above. Every other numeral is a double: its leading digits are gathered into a 64-bit
significand, and this is scaled by a power of ten.
-/

namespace ScriptLexicon.Json

/-- A number as it is written, digit by digit. -/
structure Numeral where
  negative : Bool
  whole : List Nat
  fraction : Option (List Nat)
  exponent : Option Int

namespace Numeral

/-- The number that decimal digits stand for, the highest digit first. -/
def ofDigits (digits : List Nat) : Nat := digits.foldl (fun n d => n * 10 + d) 0

/-- Adds digits to a significand until one does not fit into 64 bits; returns the digits left. -/
def gather (significand : Nat) : List Nat → Nat × List Nat
  | [] => (significand, [])
  | d :: ds =>
    if significand * 10 + d < UInt64.size then gather (significand * 10 + d) ds
    else (significand, d :: ds)

/-- The significand of a numeral and the power of ten it is scaled by. -/
def parts (n : Numeral) : Nat × Int :=
  let (whole, wholeLeft) := gather 0 n.whole
  let fraction := n.fraction.getD []
  let (significand, fractionLeft) := gather whole fraction
  let kept := fraction.length - fractionLeft.length
  (significand, (wholeLeft.length : Int) - kept + n.exponent.getD 0)

def maxPower : Nat := 308

def powerOfTen (e : Nat) : Float := Float.ofScientific 1 false e

/--
A double scaled by a power of ten in steps of at most `maxPower`, or `none` when the result is too
large for a double.
-/
def scale (x : Float) (e : Int) : Option Float :=
  if e.natAbs ≤ maxPower then
    if 0 ≤ e then
      let y := x * powerOfTen e.natAbs
      if y.isInf then none else some y
    else some (x / powerOfTen e.natAbs)
  else if x == 0 then some x
  else if 0 ≤ e then none
  else scale (x / powerOfTen maxPower) (e + maxPower)
termination_by e.natAbs
decreasing_by simp only [maxPower] at *; omega

def float? (n : Numeral) : Option Float :=
  let (significand, e) := n.parts
  (scale significand.toUInt64.toFloat e).map fun x => if n.negative then -x else x

/-- The integer written, when it has neither fraction nor exponent and fits 64 bits. -/
def int? (n : Numeral) : Option Int :=
  if n.fraction.isSome || n.exponent.isSome then none
  else
    let m := ofDigits n.whole
    if n.negative then if 0 < m ∧ Int64.minValue.toInt ≤ -m then some (-m) else none
    else if m < UInt64.size then some m else none

def value? (n : Numeral) : Option Json :=
  match n.int? with
  | some i => some (.int i)
  | none => n.float?.map .float

end Numeral

end ScriptLexicon.Json
