import ScriptLexicon.Decimal.Shortest

/-!
# The layout of doubles

A double is written with its shortest digits and always with a fraction, unless its first digit
stands so far from the point that an exponent is written instead.
-/

namespace ScriptLexicon.Decimal

/-- The decisions on how the digits of a double are laid out. -/
structure Layout where
  /-- The least power of ten of a first digit that is written without exponent. -/
  plainFrom : Int
  /-- The largest power of ten of a first digit that is written without exponent. -/
  plainTo : Int
  /-- Whether a positive exponent has a sign. -/
  signed : Bool

/-- The digits without trailing zeros. -/
def significantDigits (n : Nat) : List Char :=
  ((Nat.toDigits 10 n).reverse.dropWhile (· = '0')).reverse

def zeros (n : Nat) : List Char := List.replicate n '0'

/-- Digits before and after the point, with the first digit at a power of ten. -/
def plain (digits : List Char) (power : Int) : List Char :=
  if 0 ≤ power then
    let whole := power.toNat + 1
    let fraction := digits.drop whole
    digits.take whole ++ zeros (whole - digits.length) ++ '.' ::
      if fraction.isEmpty then ['0'] else fraction
  else '0' :: '.' :: zeros (-power - 1).toNat ++ digits

/-- One digit before the point, the others after it, and the power of the first. -/
def withExponent (signed : Bool) (digits : List Char) (power : Int) : List Char :=
  let fraction := digits.drop 1
  let sign := if power < 0 then ['-'] else if signed then ['+'] else []
  digits.take 1 ++ (if fraction.isEmpty then [] else '.' :: fraction) ++
    'e' :: sign ++ Nat.toDigits 10 power.natAbs

def Layout.positive (layout : Layout) (d : Scaled) : List Char :=
  let digits := significantDigits d.digits
  let power := d.exponent + ((Nat.toDigits 10 d.digits).length - 1)
  if layout.plainFrom ≤ power ∧ power ≤ layout.plainTo then plain digits power
  else withExponent layout.signed digits power

/-- The text of a finite double. Zero keeps its sign. -/
def Layout.text (layout : Layout) (x : Float) : String :=
  let bits := x.toBits
  let b := Binary.ofBits bits
  let digits := if b.significand = 0 then ['0', '.', '0'] else layout.positive b.shortest
  String.ofList (if bits.toNat.testBit 63 then '-' :: digits else digits)

/-- Doubles in messages and in JSON text have an exponent from `1e16` up and below `1e-5`. -/
def doubles : Layout := ⟨-5, 15, true⟩

end ScriptLexicon.Decimal
