import ScriptLexicon.Decimal.Integer
import ScriptLexicon.Token.Name

/-!
# Listings of codes

A list of codes is written in brackets, with every code shown by its label and its value: either
on one line, or with each code on a line of its own. One reader serves both layouts.
-/

namespace ScriptLexicon.Listing

def inline (cs : List Code) : String := "[" ++ ", ".intercalate (cs.map Code.debug) ++ "]"

/-- The codes on indented lines, each with a comma behind it. A list of none needs no lines. -/
def block (cs : List Code) : String :=
  if cs.isEmpty then "[]"
  else "[\n" ++ String.join (cs.map fun c => "    " ++ c.debug ++ ",\n") ++ "]"

/-! ## Reading -/

/-- The code of an item, if the item has the label of its code before the parentheses. -/
def readItem (item : List Char) : Option Code :=
  let label := item.takeWhile (· ≠ '(')
  match item.dropWhile (· ≠ '(') with
  | '(' :: rest => do
    let n ← Decimal.integer? (rest.takeWhile (· ≠ ')'))
    let c ← Code.ofInt? n
    if rest.dropWhile (· ≠ ')') = [')'] ∧ label = c.label.toList then some c else none
  | _ => none

/-- What stands between the brackets at the ends of a text. -/
def inner? : List Char → Option (List Char)
  | '[' :: rest => if rest.getLast? = some ']' then some rest.dropLast else none
  | _ => none

/-- The items between commas. Blanks only lay the items out, and a comma may follow the last. -/
def items (text : List Char) : List (List Char) :=
  ((text.filter fun c => c ≠ ' ' ∧ c ≠ '\n').splitOn ',').filter fun item => !item.isEmpty

def read (text : String) : Option (List Code) := do
  (items (← inner? text.toList)).mapM readItem

end ScriptLexicon.Listing
