import ScriptLexicon.Decimal.Layout
import ScriptLexicon.Stored
import ScriptLexicon.Text.Quoted

/-!
# A format for stored values

`jsonFormat` reads and writes stored values, with faults that keep what was found and what was
wanted.
-/

namespace ScriptLexicon.Stored

/-! ## Faults -/

inductive Fault where
  | own (text : String)
  | wrongKind (found wanted : String)
  | wrongValue (found wanted : String)
  | unknownName (name : String) (allowed : List String)

namespace Fault

def alternatives : List String → String
  | [] => "there are no variants"
  | [a] => "expected `" ++ a ++ "`"
  | [a, b] => "expected `" ++ a ++ "` or `" ++ b ++ "`"
  | names => "expected one of " ++ ", ".intercalate (names.map fun n => "`" ++ n ++ "`")

def message : Fault → String
  | own text => text
  | wrongKind found wanted => "invalid type: " ++ found ++ (", expected " ++ wanted)
  | wrongValue found wanted => "invalid value: " ++ found ++ (", expected " ++ wanted)
  | unknownName name allowed => "unknown variant `" ++ name ++ "`, " ++ alternatives allowed

end Fault

def describe : Json → String
  | .null => "null"
  | .bool b => "boolean `" ++ (if b then "true" else "false") ++ "`"
  | .int n => "integer `" ++ n.repr ++ "`"
  | .float x => "floating point `" ++ Decimal.doubles.text x ++ "`"
  | .str s => "string " ++ Text.quote s
  | .arr _ => "sequence"
  | .obj _ => "map"

/-! ## Words, lists and conversions -/

variable {α β δ : Type}

def readWord : Json → Except Fault Int32
  | .int n =>
    match Code.ofInt? n with
    | some c => .ok c.raw
    | none => .error (.wrongValue (describe (.int n)) "i32")
  | v => .error (.wrongKind (describe v) "i32")

def readItems (read : Json → Except Fault α) : List Json → Except Fault (List α)
  | [] => .ok []
  | v :: items => do
    let a ← read v
    (readItems read items).map (a :: ·)

def readList (read : Json → Except Fault α) : Json → Except Fault (List α)
  | .arr items => readItems read items
  | v => .error (.wrongKind (describe v) "a sequence")

def writeList (write : α → Except Fault Json) (as : List α) : Except Fault Json :=
  (as.mapM write).map .arr

def readThrough (read : Json → Except Fault β) (convert : β → Except δ α) (words : δ → String)
    (v : Json) : Except Fault α := do
  let b ← read v
  (convert b).mapError fun refusal => .own (words refusal)

/-! ## Choices -/

def readTag : Json → Except Fault (String × Option Json)
  | .str name => .ok (name, none)
  | .obj [(name, content)] => .ok (name, some content)
  | .obj fields => .error (.wrongValue (describe (.obj fields)) "map with a single key")
  | v => .error (.wrongKind (describe v) "string or map")

def readContent : Option Json → Except Fault Unit
  | none => .ok ()
  | some .null => .ok ()
  | some content => .error (.wrongKind (describe content) "unit")

def rename : Renaming → String → String
  | .none, identifier => identifier
  | .lowercase, identifier => identifier.toLower

def readChoice (choices : List (String × α)) (v : Json) : Except Fault α := do
  let (name, content) ← readTag v
  match choices.lookup name with
  | none => .error (.unknownName name (choices.map Prod.fst))
  | some a => (readContent content).map fun _ => a

def jsonFormat : Format Fault where
  message := Fault.message
  own := .own
  wrongKind := .wrongKind
  wrongValue := .wrongValue
  unknownName := .unknownName
  describe := describe
  alternatives := Fault.alternatives
  readWord := readWord
  writeWord w := .ok (.int w.toInt)
  readList := readList
  writeList := writeList
  readThrough := readThrough
  writeThrough convert write a := write (convert a)
  readTag := readTag
  readContent := readContent
  rename := rename
  readChoice := readChoice
  writeChoice name := .ok (.str name)

end ScriptLexicon.Stored
