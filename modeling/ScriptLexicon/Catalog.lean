import ScriptLexicon.Decimal.Integer
import ScriptLexicon.Naming
import ScriptLexicon.Token.Identifier
import ScriptLexicon.Token.Name

/-!
# The catalog

A catalog names codes in the mode it was bound with. Binding a catalog and failing to name a code
are reported as events; every other use is silent. A dump can be read back without knowing the mode
it was written in, since no name of a token starts like a number.
-/

namespace ScriptLexicon

inductive Event where
  /-- A catalog was bound with a mode. -/
  | bound (naming : Naming)
  /-- A code was to be named and has no name. -/
  | unnamed (code : Code)
deriving DecidableEq

namespace Event

def level : Event → String
  | bound _ => "DEBUG"
  | unnamed _ => "TRACE"

def message : Event → String
  | bound _ => "token catalog bound"
  | unnamed _ => "no canonical name for token code"

end Event

/-- What a use of the catalog gives, and the events it reports, in order. -/
structure Reported (α : Type) where
  result : α
  events : List Event

structure Catalog where
  naming : Naming
deriving DecidableEq

namespace Catalog

instance : Inhabited Catalog := ⟨⟨default⟩⟩

def bind (naming : Naming) : Reported Catalog := ⟨⟨naming⟩, [.bound naming]⟩

def debug (k : Catalog) : String := "TokenCatalog \x7b mode: " ++ k.naming.label ++ " \x7d"

def name (k : Catalog) (c : Code) : Reported (Except UnknownCode String) :=
  match k.naming with
  | .compact => ⟨.ok c.decimal, []⟩
  | .verbose =>
    match c.name with
    | .ok n => ⟨.ok n, []⟩
    | .error e => ⟨.error e, [.unnamed e.code]⟩

/-- Names codes one after the other and stops at the first that has no name. -/
def names (k : Catalog) : List Code → Reported (Except UnknownCode (List String))
  | [] => ⟨.ok [], []⟩
  | c :: cs =>
    let first := k.name c
    match first.result with
    | .error e => ⟨.error e, first.events⟩
    | .ok n =>
      let others := k.names cs
      ⟨others.result.map (n :: ·), first.events ++ others.events⟩

def dump (k : Catalog) (cs : List Code) : Reported (Except UnknownCode String) :=
  let named := k.names cs
  ⟨named.result.map (" ".intercalate ·), named.events⟩

end Catalog

/-! ## Reading dumps -/

namespace Dump

/-- A number starts with a digit or a minus. Any other piece is the identifier of a token. -/
def startsNumber : List Char → Bool
  | c :: _ => c.isDigit || c = '-'
  | [] => false

def readPiece (piece : List Char) : Option Code :=
  if startsNumber piece then (Decimal.integer? piece).bind Code.ofInt?
  else Token.find? (String.ofList piece)

/-- The pieces between single spaces. The empty text has none. -/
def pieces (text : String) : List (List Char) :=
  if text.isEmpty then [] else text.toList.splitOn ' '

def read (text : String) : Option (List Code) := (pieces text).mapM readPiece

end Dump

end ScriptLexicon
