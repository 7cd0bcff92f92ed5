/-!
# Readers

A reader takes a value off the front of a text, or fails. What it leaves is shorter than what it
was given, so a reader can be repeated until it fails.
-/

namespace ScriptLexicon.Text

/-- A value taken off the front of a text, and the rest of the text. -/
structure Taken (α : Type) (cs : List Char) where
  value : α
  rest : List Char
  shorter : rest.length < cs.length

def Reader (α : Type) : Type := (cs : List Char) → Option (Taken α cs)

namespace Taken

variable {α β : Type} {cs : List Char}

def map (f : α → β) (t : Taken α cs) : Taken β cs := ⟨f t.value, t.rest, t.shorter⟩

def trans (t : Taken α cs) (u : Taken β t.rest) : Taken β cs :=
  ⟨u.value, u.rest, Nat.lt_trans u.shorter t.shorter⟩

end Taken

namespace Reader

variable {α β : Type}

/-! ## One character -/

def char (p : Char → Bool) : Reader Char
  | [] => none
  | c :: rest => if p c then some ⟨c, rest, by simp⟩ else none

def exactly (c : Char) : Reader Char := char (· = c)

/-! ## Values -/

def filterMap (f : α → Option β) (r : Reader α) : Reader β := fun cs => do
  let t ← r cs
  let b ← f t.value
  return t.map fun _ => b

def map (f : α → β) (r : Reader α) : Reader β := r.filterMap fun a => some (f a)

/-! ## One after the other -/

def bind (r : Reader α) (next : α → Reader β) : Reader β := fun cs => do
  let t ← r cs
  let u ← next t.value t.rest
  return t.trans u

def andThen (r : Reader α) (s : Reader β) : Reader (α × β) := r.bind fun a => s.map (a, ·)

def andPerhaps (r : Reader α) (s : Reader β) : Reader (α × Option β) := fun cs =>
  (r cs).map fun t =>
    match s t.rest with
    | none => t.map (·, none)
    | some u => t.trans (u.map (t.value, some ·))

def perhapsThen (r : Reader α) (s : Reader β) : Reader (Option α × β) := fun cs =>
  match r cs with
  | none => (s cs).map fun t => t.map (none, ·)
  | some t => (s t.rest).map fun u => t.trans (u.map (some t.value, ·))

def orElse (r s : Reader α) : Reader α := fun cs =>
  match r cs with
  | none => s cs
  | some t => some t

/-- A fixed word, of which the first character is given apart. -/
def word (first : Char) : List Char → Reader Unit
  | [] => (exactly first).map fun _ => ()
  | c :: cs => (exactly first).bind fun _ => word c cs

/-! ## Lists -/

/-- Reads as often as possible, and once at least. -/
def many (r : Reader α) (cs : List Char) : Option (Taken (List α) cs) :=
  match r cs with
  | none => none
  | some t =>
    match many r t.rest with
    | none => some (t.map ([·]))
    | some more => some (t.trans (more.map (t.value :: ·)))
termination_by cs.length
decreasing_by exact t.shorter

def separated (item : Reader α) (separator : Reader β) : Reader (List α) :=
  (item.andPerhaps (many ((separator.andThen item).map (·.2)))).map fun (a, more) =>
    a :: more.getD []

def enclosed (left : Reader α) (r : Reader β) (right : Reader α) : Reader (Option β) :=
  ((left.andPerhaps r).andThen right).map (·.1.2)

end Reader

end ScriptLexicon.Text
