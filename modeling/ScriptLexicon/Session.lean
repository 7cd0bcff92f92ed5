import ScriptLexicon.Catalog

/-!
# Sessions

A session holds one catalog at a time, at first the default one, and runs steps on it. Every step
leaves a record of its answer, of the mode afterwards, and of the events it reported.
-/

namespace ScriptLexicon.Session

inductive Step where
  /-- Takes the default catalog, which needs no binding. -/
  | reset
  | bind (naming : Naming)
  | bindBySwitches (printTrees printCode : Bool)
  | askMode
  /-- Copies the catalog and binds another one with the mode of the copy. -/
  | rebind
  | name (code : Code)
  | dump (codes : List Code)
deriving DecidableEq

inductive Answer where
  | nothing
  | mode (naming : Naming)
  /-- Whether the copy equals the default catalog, and whether the new catalog equals the copy. -/
  | equalities (copyIsDefault newIsCopy : Bool)
  | text (result : Except UnknownCode String)

structure Record where
  answer : Answer
  mode : Naming
  events : List Event

/-- The catalog after a step, with the answer of the step and its events. -/
def perform (k : Catalog) : Step → Catalog × Reported Answer
  | .reset => (default, ⟨.nothing, []⟩)
  | .bind naming =>
    let bound := Catalog.bind naming
    (bound.result, ⟨.nothing, bound.events⟩)
  | .bindBySwitches printTrees printCode =>
    let bound := Catalog.bind (Naming.ofSwitches printTrees printCode)
    (bound.result, ⟨.nothing, bound.events⟩)
  | .askMode => (k, ⟨.mode k.naming, []⟩)
  | .rebind =>
    let bound := Catalog.bind k.naming
    (bound.result, ⟨.equalities (k = default) (bound.result = k), bound.events⟩)
  | .name code =>
    let named := k.name code
    (k, ⟨.text named.result, named.events⟩)
  | .dump codes =>
    let dumped := k.dump codes
    (k, ⟨.text dumped.result, dumped.events⟩)

def runFrom (k : Catalog) : List Step → List Record
  | [] => []
  | step :: steps =>
    let (after, reported) := perform k step
    ⟨reported.result, after.naming, reported.events⟩ :: runFrom after steps

def run (steps : List Step) : List Record := runFrom default steps

end ScriptLexicon.Session
