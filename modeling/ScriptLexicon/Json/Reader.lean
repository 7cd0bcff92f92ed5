import ScriptLexicon.Json.Numeral
import ScriptLexicon.Text.Reader

/-!
# Reading JSON text

`Json.parse?` accepts a text that holds exactly one value, with blanks around it and between its
parts. Arrays and objects nest up to `maxDepth` levels.
-/

namespace ScriptLexicon.Json

open Text

/-! ## Blanks and marks -/

def blank : Reader Char := Reader.char fun c => c = ' ' ∨ c = '\n' ∨ c = '\t' ∨ c = '\r'

def blanks : Reader (List Char) := blank.many

def spaced {α : Type} (r : Reader α) : Reader α := (blanks.perhapsThen r).map (·.2)

def mark (c : Char) : Reader Char := spaced (Reader.exactly c)

/-! ## Strings -/

def hexValue? (c : Char) : Option Nat :=
  if '0' ≤ c ∧ c ≤ '9' then some (c.toNat - '0'.toNat)
  else if 'a' ≤ c ∧ c ≤ 'f' then some (c.toNat - 'a'.toNat + 10)
  else if 'A' ≤ c ∧ c ≤ 'F' then some (c.toNat - 'A'.toNat + 10)
  else none

def hexDigit : Reader Nat := (Reader.char fun _ => true).filterMap hexValue?

/-- A sixteen-bit unit, written as `u` and four hexadecimal digits after a backslash. -/
def unit : Reader Nat :=
  ((Reader.word '\\' ['u']).andThen
    (hexDigit.andThen (hexDigit.andThen (hexDigit.andThen hexDigit)))).map
    fun (_, a, b, c, d) => ((a * 16 + b) * 16 + c) * 16 + d

def isLeading (unit : Nat) : Bool := 0xD800 ≤ unit ∧ unit < 0xDC00

def isTrailing (unit : Nat) : Bool := 0xDC00 ≤ unit ∧ unit < 0xE000

def joinUnits (leading trailing : Nat) : Char :=
  Char.ofNat (0x10000 + (leading - 0xD800) * 0x400 + (trailing - 0xDC00))

/-- A character by its units. A leading unit and a trailing one occur only as a pair. -/
def unitEscape : Reader Char :=
  (unit.filterMap fun n => if isLeading n ∨ isTrailing n then none else some (Char.ofNat n)).orElse
    ((unit.andThen unit).filterMap fun (a, b) =>
      if isLeading a ∧ isTrailing b then some (joinUnits a b) else none)

def letterEscape? : Char → Option Char
  | '"' => some '"'
  | '\\' => some '\\'
  | '/' => some '/'
  | 'b' => some '\x08'
  | 'f' => some '\x0c'
  | 'n' => some '\n'
  | 'r' => some '\r'
  | 't' => some '\t'
  | _ => none

def letterEscape : Reader Char :=
  ((Reader.exactly '\\').andThen (Reader.char fun _ => true)).filterMap fun (_, c) =>
    letterEscape? c

/-- A character that stands for itself. Control characters have to be escaped. -/
def plainChar : Reader Char := Reader.char fun c => ' ' ≤ c ∧ c ≠ '"' ∧ c ≠ '\\'

def string : Reader String :=
  (Reader.enclosed (Reader.exactly '"') (plainChar.orElse (letterEscape.orElse unitEscape)).many
    (Reader.exactly '"')).map fun cs => String.ofList (cs.getD [])

/-! ## Numbers -/

def digit : Reader Nat := (Reader.char Char.isDigit).map fun c => c.toNat - '0'.toNat

def digits : Reader (List Nat) := digit.many

/-- A lone zero, or digits that do not start with a zero. -/
def wholePart : Reader (List Nat) :=
  ((Reader.exactly '0').map fun _ => [0]).orElse digits

def fractionPart : Reader (List Nat) := ((Reader.exactly '.').andThen digits).map (·.2)

def exponentPart : Reader Int :=
  ((Reader.char fun c => c = 'e' ∨ c = 'E').andThen
    ((Reader.char fun c => c = '-' ∨ c = '+').perhapsThen digits)).map
    fun (_, sign, ds) =>
      if sign = some '-' then -(Numeral.ofDigits ds : Int) else Numeral.ofDigits ds

def numeral : Reader Numeral :=
  ((((Reader.exactly '-').perhapsThen wholePart).andPerhaps fractionPart).andPerhaps
    exponentPart).map
    fun (((minus, whole), fraction), exponent) => ⟨minus.isSome, whole, fraction, exponent⟩

/-! ## Values -/

def scalar : Reader Json :=
  ((Reader.word 'n' ['u', 'l', 'l']).map fun _ => Json.null).orElse <|
  ((Reader.word 't' ['r', 'u', 'e']).map fun _ => Json.bool true).orElse <|
  ((Reader.word 'f' ['a', 'l', 's', 'e']).map fun _ => Json.bool false).orElse <|
  (string.map Json.str).orElse (numeral.filterMap Numeral.value?)

def array (item : Reader Json) : Reader Json :=
  (Reader.enclosed (Reader.exactly '[') (Reader.separated (spaced item) (mark ',')) (mark ']')).map
    fun items => .arr (items.getD [])

def entry (item : Reader Json) : Reader (String × Json) :=
  ((spaced string).andThen ((mark ':').andThen (spaced item))).map fun (key, _, v) => (key, v)

/-- Gives a key its value. A key that is there already takes the new value in its old place. -/
def put (key : String) (v : Json) : List (String × Json) → List (String × Json)
  | [] => [(key, v)]
  | (k, w) :: rest => if k = key then (key, v) :: rest else (k, w) :: put key v rest

/-- The object of a list of entries, the last entry of each key being the one that counts. -/
def ofEntries (entries : List (String × Json)) : Json :=
  .obj (entries.foldl (fun fields e => put e.1 e.2 fields) [])

def object (item : Reader Json) : Reader Json :=
  (Reader.enclosed (Reader.exactly '\x7b') (Reader.separated (entry item) (mark ','))
    (mark '\x7d')).map fun entries => ofEntries (entries.getD [])

/-- A value in which arrays and objects nest up to a depth. -/
def valueWithin (depth : Nat) (cs : List Char) : Option (Taken Json cs) :=
  match depth with
  | 0 => scalar cs
  | inner + 1 => (scalar.orElse ((array (valueWithin inner)).orElse (object (valueWithin inner)))) cs

def maxDepth : Nat := 127

def parse? (text : String) : Option Json := do
  let t ← spaced (Reader.andPerhaps (valueWithin maxDepth) blanks) text.toList
  if t.rest.isEmpty then some t.value.1 else none

end ScriptLexicon.Json
