import ScriptLexicon.CodeSpace
import ScriptLexicon.CommentForm
import ScriptLexicon.Json
import ScriptLexicon.Naming

/-!
# Stored values

Codes and choices are stored as JSON. How JSON is read and written is not for the lexicon to say: a
`Format` has the operations that storing calls, and its laws say what is relied on. The lexicon
chooses the operation for each of its types. A code is stored as the word it is, in the code space
or not, and is let in again only by the code space. A choice is stored by its name.
-/

namespace ScriptLexicon.Stored

/-- How the name of a choice comes from its identifier. -/
inductive Renaming where
  | none
  | lowercase
deriving DecidableEq

/-- A type of choices: the identifier of each, and how its name comes from it. -/
structure Choices (α : Type) where
  style : Renaming
  identifier : α → String
  all : List α
  mem_all : ∀ a, a ∈ all

/-- The operations of a format, with faults of type `ε`. -/
structure Format (ε : Type) where
  message : ε → String
  /-- A fault that the type to be read reports in words of its own. -/
  own : String → ε
  /-- A value of a kind that does not serve: what was found, and what was wanted. -/
  wrongKind : String → String → ε
  /-- A value of a kind that serves, outside what is allowed. -/
  wrongValue : String → String → ε
  /-- A name that is none of those allowed. -/
  unknownName : String → List String → ε
  /-- What a value is, in the words of messages. -/
  describe : Json → String
  /-- Which names are allowed, in the words of messages. -/
  alternatives : List String → String
  readWord : Json → Except ε Int32
  writeWord : Int32 → Except ε Json
  readList {α : Type} : (Json → Except ε α) → Json → Except ε (List α)
  writeList {α : Type} : (α → Except ε Json) → List α → Except ε Json
  /-- Reads another type and converts what was read. A refusal is put into words. -/
  readThrough {α β δ : Type} :
    (Json → Except ε β) → (β → Except δ α) → (δ → String) → Json → Except ε α
  /-- Converts to another type and writes that. -/
  writeThrough {α β : Type} : (α → β) → (β → Except ε Json) → α → Except ε Json
  /-- The name of a choice, and what the value holds for it, if anything. -/
  readTag : Json → Except ε (String × Option Json)
  /-- Takes what a value holds for a choice that needs nothing. -/
  readContent : Option Json → Except ε Unit
  rename : Renaming → String → String
  readChoice {α : Type} : List (String × α) → Json → Except ε α
  writeChoice : String → Except ε Json

/-! ## What is relied on -/

namespace Format

variable {ε : Type}

/-- The words of messages, for the texts that the types here have and the kinds they want. -/
structure LawfulMessages (F : Format ε) : Prop where
  message_own (e : UnknownCode) : F.message (F.own e.message) = e.message
  message_wrongKind (found : String) {wanted : String}
    (h : wanted ∈ ["i32", "a sequence", "string or map", "unit"]) :
    F.message (F.wrongKind found wanted) = "invalid type: " ++ found ++ (", expected " ++ wanted)
  message_wrongValue (found : String) {wanted : String}
    (h : wanted ∈ ["i32", "map with a single key"]) :
    F.message (F.wrongValue found wanted) = "invalid value: " ++ found ++ (", expected " ++ wanted)
  message_unknownName (name : String) (allowed : List String) :
    F.message (F.unknownName name allowed) =
      "unknown variant `" ++ name ++ "`, " ++ F.alternatives allowed
  /-- Integers are shown with all their digits. -/
  describe_int (n : Int) : F.describe (.int n) = "integer `" ++ n.repr ++ "`"

/-- Words of 32 bits are stored as integers. -/
structure LawfulWords (F : Format ε) : Prop where
  readWord_fits (w : Int32) : F.readWord (.int w.toInt) = .ok w
  readWord_large {n : Int} (h : n < -2147483648 ∨ 2147483647 < n) :
    F.readWord (.int n) = .error (F.wrongValue (F.describe (.int n)) "i32")
  /-- A double is no integer, even a whole one. -/
  readWord_other {v : Json} (h : ∀ n, v ≠ .int n) :
    F.readWord v = .error (F.wrongKind (F.describe v) "i32")
  writeWord_eq (w : Int32) : F.writeWord w = .ok (.int w.toInt)

/-- Lists are arrays. Their items are read in order, and the first fault ends the reading. -/
structure LawfulLists (F : Format ε) : Prop where
  readList_nil {α : Type} (read : Json → Except ε α) : F.readList read (.arr []) = .ok []
  readList_cons_ok {α : Type} {read : Json → Except ε α} {v : Json} {a : α} (h : read v = .ok a)
    (items : List Json) :
    F.readList read (.arr (v :: items)) = (F.readList read (.arr items)).map (a :: ·)
  readList_cons_error {α : Type} {read : Json → Except ε α} {v : Json} {fault : ε}
    (h : read v = .error fault) (items : List Json) :
    F.readList read (.arr (v :: items)) = .error fault
  readList_other {α : Type} (read : Json → Except ε α) {v : Json} (h : ∀ items, v ≠ .arr items) :
    F.readList read v = .error (F.wrongKind (F.describe v) "a sequence")
  writeList_nil {α : Type} (write : α → Except ε Json) : F.writeList write [] = .ok (.arr [])
  writeList_cons {α : Type} {write : α → Except ε Json} {a : α} {as : List α} {v : Json}
    {items : List Json} (h : write a = .ok v) (hrest : F.writeList write as = .ok (.arr items)) :
    F.writeList write (a :: as) = .ok (.arr (v :: items))

/-- A type that is stored through another is converted after reading and before writing. -/
structure LawfulConversions (F : Format ε) : Prop where
  readThrough_ok {α β δ : Type} {read : Json → Except ε β} {convert : β → Except δ α} {v : Json}
    {b : β} {a : α} (hread : read v = .ok b) (hconvert : convert b = .ok a) (words : δ → String) :
    F.readThrough read convert words v = .ok a
  readThrough_refused {α β δ : Type} {read : Json → Except ε β} {convert : β → Except δ α}
    {v : Json} {b : β} {refusal : δ} (hread : read v = .ok b)
    (hconvert : convert b = .error refusal) (words : δ → String) :
    F.readThrough read convert words v = .error (F.own (words refusal))
  readThrough_fault {α β δ : Type} {read : Json → Except ε β} {v : Json} {fault : ε}
    (hread : read v = .error fault) (convert : β → Except δ α) (words : δ → String) :
    F.readThrough read convert words v = .error fault
  writeThrough_eq {α β : Type} (convert : α → β) (write : β → Except ε Json) (a : α) :
    F.writeThrough convert write a = write (convert a)

/-- The name of a choice is a string, or the only key of an object that holds something for it. -/
structure LawfulTags (F : Format ε) : Prop where
  readTag_alone (name : String) : F.readTag (.str name) = .ok (name, none)
  readTag_key (name : String) (content : Json) :
    F.readTag (.obj [(name, content)]) = .ok (name, some content)
  readTag_keys {fields : List (String × Json)} (h : fields.length ≠ 1) :
    F.readTag (.obj fields) =
      .error (F.wrongValue (F.describe (.obj fields)) "map with a single key")
  readTag_other {v : Json} (htext : ∀ s, v ≠ .str s) (hobject : ∀ fields, v ≠ .obj fields) :
    F.readTag v = .error (F.wrongKind (F.describe v) "string or map")
  readContent_none : F.readContent none = .ok ()
  readContent_null : F.readContent (some .null) = .ok ()
  readContent_other {content : Json} (h : content ≠ .null) :
    F.readContent (some content) = .error (F.wrongKind (F.describe content) "unit")

/-- A choice is found by its name. What the value holds for it is looked at last. -/
structure LawfulChoices (F : Format ε) : Prop where
  rename_none (identifier : String) : F.rename .none identifier = identifier
  rename_lowercase (identifier : String) : F.rename .lowercase identifier = identifier.toLower
  readChoice_fault {α : Type} {v : Json} {fault : ε} (htag : F.readTag v = .error fault)
    (choices : List (String × α)) : F.readChoice choices v = .error fault
  readChoice_unknown {α : Type} {choices : List (String × α)} {v : Json} {name : String}
    {content : Option Json} (htag : F.readTag v = .ok (name, content))
    (hname : name ∉ choices.map Prod.fst) :
    F.readChoice choices v = .error (F.unknownName name (choices.map Prod.fst))
  readChoice_content {α : Type} {choices : List (String × α)} {v : Json} {name : String}
    {content : Option Json} {fault : ε} (htag : F.readTag v = .ok (name, content))
    (hname : name ∈ choices.map Prod.fst) (hcontent : F.readContent content = .error fault) :
    F.readChoice choices v = .error fault
  readChoice_ok {α : Type} {choices : List (String × α)} {v : Json} {name : String}
    {content : Option Json} {a : α} (hnames : (choices.map Prod.fst).Nodup)
    (htag : F.readTag v = .ok (name, content)) (hname : (name, a) ∈ choices)
    (hcontent : F.readContent content = .ok ()) : F.readChoice choices v = .ok a
  writeChoice_eq (name : String) : F.writeChoice name = .ok (.str name)

/-! ## Codes -/

def encodeCode (F : Format ε) : Code → Except ε Json := F.writeThrough Code.raw F.writeWord

def decodeCode (F : Format ε) : Json → Except ε Code :=
  F.readThrough F.readWord CodeSpace.accept UnknownCode.message

def encodeCodes (F : Format ε) : List Code → Except ε Json := F.writeList F.encodeCode

def decodeCodes (F : Format ε) : Json → Except ε (List Code) := F.readList F.decodeCode

/-! ## Choices -/

def encodeChoice {α : Type} (F : Format ε) (C : Choices α) (a : α) : Except ε Json :=
  F.writeChoice (F.rename C.style (C.identifier a))

def decodeChoice {α : Type} (F : Format ε) (C : Choices α) : Json → Except ε α :=
  F.readChoice (C.all.map fun a => (F.rename C.style (C.identifier a), a))

end Format

def namings : Choices Naming := ⟨.lowercase, Naming.label, Naming.all, Naming.mem_all⟩

def commentForms : Choices CommentForm :=
  ⟨.none, CommentForm.name, CommentForm.all, CommentForm.mem_all⟩

end ScriptLexicon.Stored
