import ScriptLexicon.Token

/-!
# Reserved words

The words a script may not use as identifiers, with the token each stands for. A token has a
spelling when it is written back as one word; words that share a token have none.

Most identifiers are not reserved, and most of those are told by their length or their first
character alone. `resolve?` therefore compares a text only with the reserved words of its length.
-/

namespace ScriptLexicon

namespace ReservedWord

/-- The tokens that are written back as a word, each with its word. -/
def spellings : List (Code × String) := [
  (Token.break, "break"), (Token.case, "case"), (Token.continue, "continue"),
  (Token.default, "default"), (Token.deleteProp, "delete"), (Token.do, "do"),
  (Token.else, "else"), (Token.false, "false"), (Token.for, "for"),
  (Token.function, "function"), (Token.if, "if"), (Token.in, "in"), (Token.let, "let"),
  (Token.new, "new"), (Token.null, "null"), (Token.return, "return"),
  (Token.switch, "switch"), (Token.this, "this"), (Token.true, "true"),
  (Token.typeof, "typeof"), (Token.var, "var"), (Token.void, "void"),
  (Token.while, "while"), (Token.with, "with"), (Token.yield, "yield"),
  (Token.catch, "catch"), (Token.const, "const"), (Token.debugger, "debugger"),
  (Token.finally, "finally"), (Token.instanceof, "instanceof"), (Token.throw, "throw"),
  (Token.try, "try")]

/-- Words whose tokens are not written back. -/
def moduleWords : List (String × Code) := [("export", Token.export), ("import", Token.import)]

/-- Words kept for later editions of the language. -/
def future : List String := [
  "abstract", "boolean", "byte", "char", "class", "double", "enum", "extends", "final", "float",
  "goto", "implements", "int", "interface", "long", "native", "package", "private", "protected",
  "public", "short", "static", "super", "synchronized", "throws", "transient", "volatile"]

def vocabulary : List (String × Code) :=
  spellings.map (fun (c, w) => (w, c)) ++ moduleWords ++ future.map (·, Token.reserved)

/-! ## Looking up a word -/

/-- The reserved words of a length in bytes. -/
def ofLength : Nat → List (String × Code)
  | 2 => [("do", Token.do), ("if", Token.if), ("in", Token.in)]
  | 3 => [
    ("for", Token.for), ("let", Token.let), ("new", Token.new), ("try", Token.try),
    ("var", Token.var), ("int", Token.reserved)]
  | 4 => [
    ("case", Token.case), ("else", Token.else), ("null", Token.null), ("this", Token.this),
    ("true", Token.true), ("void", Token.void), ("with", Token.with), ("byte", Token.reserved),
    ("char", Token.reserved), ("enum", Token.reserved), ("goto", Token.reserved),
    ("long", Token.reserved)]
  | 5 => [
    ("break", Token.break), ("catch", Token.catch), ("const", Token.const),
    ("false", Token.false), ("throw", Token.throw), ("while", Token.while),
    ("yield", Token.yield), ("class", Token.reserved), ("final", Token.reserved),
    ("float", Token.reserved), ("short", Token.reserved), ("super", Token.reserved)]
  | 6 => [
    ("delete", Token.deleteProp), ("export", Token.export), ("import", Token.import),
    ("return", Token.return), ("switch", Token.switch), ("typeof", Token.typeof),
    ("double", Token.reserved), ("native", Token.reserved), ("public", Token.reserved),
    ("static", Token.reserved), ("throws", Token.reserved)]
  | 7 => [
    ("default", Token.default), ("finally", Token.finally), ("boolean", Token.reserved),
    ("extends", Token.reserved), ("package", Token.reserved), ("private", Token.reserved)]
  | 8 => [
    ("continue", Token.continue), ("debugger", Token.debugger), ("function", Token.function),
    ("abstract", Token.reserved), ("volatile", Token.reserved)]
  | 9 => [
    ("interface", Token.reserved), ("protected", Token.reserved), ("transient", Token.reserved)]
  | 10 => [("instanceof", Token.instanceof), ("implements", Token.reserved)]
  | 12 => [("synchronized", Token.reserved)]
  | _ => []

def isLowercase (c : Char) : Bool := 'a' ≤ c ∧ c ≤ 'z'

/-- What every reserved word has: two to twelve bytes, and a lowercase letter in front. -/
def looksReserved (text : String) : Bool :=
  2 ≤ text.utf8ByteSize && text.utf8ByteSize ≤ 12 && text.toList.head?.any isLowercase

def resolve? (text : String) : Option Code :=
  if looksReserved text then (ofLength text.utf8ByteSize).lookup text else none

end ReservedWord

def Code.spelling? (c : Code) : Option String := ReservedWord.spellings.lookup c

end ScriptLexicon
