/-!
# Forms of comments

A comment token carries the form the comment was written in, as a small number.
-/

namespace ScriptLexicon

inductive CommentForm where
  /-- From `//` to the end of the line. -/
  | line
  /-- Between the marks of a block. -/
  | block
  /-- A block whose opening mark has a second star. -/
  | jsDoc
  /-- From `<!--` to the end of the line. -/
  | html
deriving DecidableEq

namespace CommentForm

def all : List CommentForm := [line, block, jsDoc, html]

theorem mem_all (f : CommentForm) : f ∈ all := by cases f <;> decide

def number : CommentForm → Nat
  | line => 0
  | block => 1
  | jsDoc => 2
  | html => 3

def ofNumber? (n : Nat) : Option CommentForm := all.find? (·.number = n)

def isDocumentation : CommentForm → Bool
  | jsDoc => true
  | _ => false

def name : CommentForm → String
  | line => "Line"
  | block => "BlockComment"
  | jsDoc => "JsDoc"
  | html => "Html"

def ofName? (name : String) : Option CommentForm := all.find? (·.name = name)

theorem ofNumber?_number (f : CommentForm) : ofNumber? f.number = some f := by cases f <;> rfl

end CommentForm

end ScriptLexicon
