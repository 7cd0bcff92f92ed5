import ScriptLexicon.Decimal.Layout

/-!
# JSON values

A number is an integer or a double, whichever its written form asks for; the two are never equal.
Read from a text, an object has each key once.
-/

namespace ScriptLexicon

inductive Json where
  | null
  | bool (b : Bool)
  | int (n : Int)
  | float (x : Float)
  | str (s : String)
  | arr (items : List Json)
  | obj (fields : List (String × Json))
deriving Inhabited

namespace Json

def field? (key : String) : Json → Option Json
  | .obj fields => fields.lookup key
  | _ => none

def string? : Json → Option String
  | .str s => some s
  | _ => none

def bool? : Json → Option Bool
  | .bool b => some b
  | _ => none

def int? : Json → Option Int
  | .int n => some n
  | _ => none

def items? : Json → Option (List Json)
  | .arr items => some items
  | _ => none

/-! ## Writing

The text of a value has no blanks. In a string only quotes, backslashes and control characters are
escaped.
-/

def hexDigitOf (n : Nat) : Char := (Nat.toDigits 16 (n % 16)).headD '0'

def escapeChar (c : Char) : List Char :=
  if c = '"' then ['\\', '"']
  else if c = '\\' then ['\\', '\\']
  else if c = '\n' then ['\\', 'n']
  else if c = '\r' then ['\\', 'r']
  else if c = '\t' then ['\\', 't']
  else if c = '\x08' then ['\\', 'b']
  else if c = '\x0c' then ['\\', 'f']
  else if c < ' ' then ['\\', 'u', '0', '0', hexDigitOf (c.toNat / 16), hexDigitOf c.toNat]
  else [c]

def renderString (s : String) : String :=
  String.ofList ('"' :: s.toList.flatMap escapeChar ++ ['"'])

mutual

def render : Json → String
  | .null => "null"
  | .bool true => "true"
  | .bool false => "false"
  | .int n => n.repr
  | .float x => Decimal.doubles.text x
  | .str s => renderString s
  | .arr items => "[" ++ ",".intercalate (renderItems items) ++ "]"
  | .obj fields => "\x7b" ++ ",".intercalate (renderFields fields) ++ "\x7d"

def renderItems : List Json → List String
  | [] => []
  | v :: rest => v.render :: renderItems rest

def renderFields : List (String × Json) → List String
  | [] => []
  | (key, v) :: rest => (renderString key ++ ":" ++ v.render) :: renderFields rest

end

end Json

end ScriptLexicon
