/-!
# Integers in decimal

`integer?` reads digits with at most a minus in front. It reads back every integer from its
decimal text.
-/

namespace ScriptLexicon.Decimal

/-- A natural number from one decimal digit or more. -/
def natural? (cs : List Char) : Option Nat :=
  if cs.isEmpty || !cs.all Char.isDigit then none else some (Nat.ofDigitChars 10 cs 0)

def integer? : List Char → Option Int
  | '-' :: cs => (natural? cs).map fun (n : Nat) => -(n : Int)
  | cs => (natural? cs).map Int.ofNat

/-! ## Reading what was written -/

theorem isDigit_of_mem_repr {n : Nat} {c : Char} (h : c ∈ n.repr.toList) : c.isDigit = true := by
  rw [Nat.toList_repr] at h
  exact Nat.isDigit_of_mem_toDigits (by decide) (by decide) h

theorem natural?_repr (n : Nat) : natural? n.repr.toList = some n := by
  have hall : n.repr.toList.all Char.isDigit = true :=
    List.all_eq_true.2 fun _ h => isDigit_of_mem_repr h
  have hne : n.repr.toList.isEmpty = false := by
    rw [Nat.toList_repr, List.isEmpty_eq_false_iff]
    exact Nat.toDigits_ne_nil
  rw [natural?, hall, hne, Nat.toList_repr]
  simp

theorem integer?_eq_natural? {cs : List Char} (h : cs.head? ≠ some '-') :
    integer? cs = (natural? cs).map Int.ofNat := by
  unfold integer?
  split
  · simp at h
  · rfl

theorem integer?_repr (n : Int) : integer? n.repr.toList = some n := by
  cases n with
  | ofNat n =>
    have hhead : n.repr.toList.head? ≠ some '-' := by
      intro h
      have := isDigit_of_mem_repr (List.mem_of_head? h)
      exact absurd this (by decide)
    change integer? n.repr.toList = some (Int.ofNat n)
    rw [integer?_eq_natural? hhead, natural?_repr, Option.map_some]
  | negSucc n =>
    change integer? ("-" ++ (n + 1).repr).toList = some (Int.negSucc n)
    rw [String.toList_append]
    change (natural? (n + 1).repr.toList).map (fun (n : Nat) => -(n : Int)) = some (Int.negSucc n)
    rw [natural?_repr, Option.map_some, Int.negSucc_eq]
    rfl

theorem isDigit_or_minus_of_mem_repr {n : Int} {c : Char} (h : c ∈ n.repr.toList) :
    c.isDigit = true ∨ c = '-' := by
  cases n with
  | ofNat n => exact Or.inl (isDigit_of_mem_repr h)
  | negSucc n =>
    change c ∈ ("-" ++ (n + 1).repr).toList at h
    rw [String.toList_append, List.mem_append] at h
    rcases h with h | h
    · exact Or.inr (List.mem_singleton.1 h)
    · exact Or.inl (isDigit_of_mem_repr h)

theorem toList_repr_ne_nil (n : Int) : n.repr.toList ≠ [] := by
  intro h
  have := integer?_repr n
  rw [h] at this
  simp [integer?, natural?] at this

end ScriptLexicon.Decimal
