import ScriptLexicon.CodeSpace

/-!
# Walks over the code space

A walk takes codes from both ends of the code space until the ends meet. The codes it has not
taken yet are those between two positions, so every step is arithmetic on the positions.
-/

namespace ScriptLexicon

/-- The codes from position `front` up to, but without, position `back` are left. -/
structure Walk where
  front : Nat
  back : Nat
  front_le_back : front ≤ back
  back_le_size : back ≤ CodeSpace.size

namespace Walk

def start : Walk := ⟨0, CodeSpace.size, Nat.zero_le _, Nat.le_refl _⟩

def count (w : Walk) : Nat := w.back - w.front

def toList (w : Walk) : List Code := (List.range' w.front w.count).map CodeSpace.codeAt

def first? (w : Walk) : Option Code :=
  if w.front < w.back then some (CodeSpace.codeAt w.front) else none

def last? (w : Walk) : Option Code :=
  if w.front < w.back then some (CodeSpace.codeAt (w.back - 1)) else none

/-! ## Steps at the front -/

/-- Moves the front, up to the back at most. -/
def advance (w : Walk) (k : Nat) : Walk where
  front := min (w.front + k) w.back
  back := w.back
  front_le_back := Nat.min_le_right _ _
  back_le_size := w.back_le_size

def next (w : Walk) : Option Code × Walk := (w.first?, w.advance 1)

/-- Passes over `k` codes and takes the one after them. -/
def nth (w : Walk) (k : Nat) : Option Code × Walk :=
  (if w.front + k < w.back then some (CodeSpace.codeAt (w.front + k)) else none, w.advance (k + 1))

/-- Takes `k` codes, or all when fewer are left. -/
def take (w : Walk) (k : Nat) : List Code × Walk :=
  ((List.range' w.front (min k w.count)).map CodeSpace.codeAt, w.advance k)

/-! ## Steps at the back -/

/-- Moves the back, down to the front at most. -/
def retreat (w : Walk) (k : Nat) : Walk where
  front := w.front
  back := max (w.back - k) w.front
  front_le_back := Nat.le_max_right _ _
  back_le_size := Nat.max_le.2
    ⟨Nat.le_trans (Nat.sub_le _ _) w.back_le_size, Nat.le_trans w.front_le_back w.back_le_size⟩

def nextBack (w : Walk) : Option Code × Walk := (w.last?, w.retreat 1)

/-- Passes over `k` codes at the back and takes the one before them. -/
def nthBack (w : Walk) (k : Nat) : Option Code × Walk :=
  (if w.front + k < w.back then some (CodeSpace.codeAt (w.back - 1 - k)) else none,
    w.retreat (k + 1))

/-! ## Runs -/

inductive Step where
  | next
  | nextBack
  | nth (k : Nat)
  | nthBack (k : Nat)
  | take (k : Nat)
  | sizeHint
deriving DecidableEq

inductive Answer where
  | code (c : Option Code)
  | codes (cs : List Code)
  /-- At least and at most so many codes are left. -/
  | bounds (least most : Nat)
deriving DecidableEq

def perform (w : Walk) : Step → Answer × Walk
  | .next => (.code w.next.1, w.next.2)
  | .nextBack => (.code w.nextBack.1, w.nextBack.2)
  | .nth k => (.code (w.nth k).1, (w.nth k).2)
  | .nthBack k => (.code (w.nthBack k).1, (w.nthBack k).2)
  | .take k => (.codes (w.take k).1, (w.take k).2)
  | .sizeHint => (.bounds w.count w.count, w)

def run (w : Walk) : List Step → List Answer × Walk
  | [] => ([], w)
  | step :: steps =>
    let (answer, after) := w.perform step
    let (answers, final) := after.run steps
    (answer :: answers, final)

end Walk

end ScriptLexicon
