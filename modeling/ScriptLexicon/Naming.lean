/-!
# Ways of naming codes

Codes are named compactly, by their value, or verbosely, by the name of their token. Names are
only worth the search when something that shows them will be printed.
-/

namespace ScriptLexicon

inductive Naming where
  | compact
  | verbose
deriving DecidableEq

namespace Naming

instance : Inhabited Naming := ⟨compact⟩

/-- Verbose when a tree or interpreter code will be printed. -/
def ofSwitches (printTrees printCode : Bool) : Naming :=
  if printTrees || printCode then verbose else compact

def isVerbose : Naming → Bool
  | compact => false
  | verbose => true

def label : Naming → String
  | compact => "Compact"
  | verbose => "Verbose"

/-- The word for the mode in stored settings. -/
def key : Naming → String
  | compact => "compact"
  | verbose => "verbose"

def all : List Naming := [compact, verbose]

theorem mem_all (n : Naming) : n ∈ all := by cases n <;> decide

end Naming

end ScriptLexicon
