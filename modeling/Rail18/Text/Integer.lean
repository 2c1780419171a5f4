/-! # Integers in text

A number is written with ASCII digits, at least one, and an optional sign. Leading zeros are
allowed; blanks are not. -/

namespace Rail18.Text

/-- The value of a non-empty text of ASCII digits. -/
def digits? (s : List Char) : Option Nat :=
  if s ≠ [] ∧ s.all Char.isDigit then some (Nat.ofDigitChars 10 s 0) else none

def natural? : List Char → Option Nat
  | '+' :: s => digits? s
  | s => digits? s

def integer? : List Char → Option Int
  | '-' :: s => (digits? s).map fun n => -(n : Int)
  | s => (natural? s).map Int.ofNat

theorem digits?_eq_some_iff {s : List Char} {n : Nat} :
    digits? s = some n ↔ s ≠ [] ∧ s.all Char.isDigit = true ∧ Nat.ofDigitChars 10 s 0 = n := by
  simp [digits?, and_assoc]

end Rail18.Text
