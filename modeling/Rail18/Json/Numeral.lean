import Rail18.Json.Node
import Rail18.Word

/-! # Numbers in a JSON text

The grammar of a number and the value it stands for. A whole number without fraction and exponent
that fits 64 bits is kept exactly, but for the negative zero; every other number becomes a double:
as many leading digits as fit an unsigned word make up the significand, which is then scaled by a
power of ten. -/

namespace Rail18.Json

structure Numeral where
  negative : Bool
  whole : List Char
  fraction : List Char := []
  exponentNegative : Bool := false
  exponent : List Char := []

namespace Numeral

def digit (c : Char) : Nat := c.toNat - '0'.toNat

/-- Appends digits of the whole part to a significand; those that do not fit are counted. -/
def takeWhole : List Char → Nat → Nat × Nat
  | [], n => (n, 0)
  | c :: rest, n =>
    if n * 10 + digit c < UInt64.size then takeWhole rest (n * 10 + digit c)
    else (n, rest.length + 1)

/-- Appends digits of the fraction to a significand until one does not fit; counts those used. -/
def takeFraction : List Char → Nat → Nat × Nat
  | [], n => (n, 0)
  | c :: rest, n =>
    if n * 10 + digit c < UInt64.size then
      let (m, used) := takeFraction rest (n * 10 + digit c)
      (m, used + 1)
    else (n, 0)

/-- The greatest exponent of a power of ten that is a double. -/
def maxPower : Nat := 308

def power (exponent : Nat) : Float := Float.ofScientific 1 false exponent

/-- Multiplies by a power of ten; there is no infinite result. -/
def scaleUp (f : Float) (exponent : Nat) : Except Fault Float :=
  if exponent ≤ maxPower then
    let scaled := f * power exponent
    if scaled.isInf then .error .malformed else .ok scaled
  else if f == 0 then .ok f
  else .error .malformed

/-- Divides by a power of ten, in steps of the greatest power. -/
def scaleDown (f : Float) (exponent : Nat) : Float :=
  if exponent ≤ maxPower then f / power exponent
  else if f == 0 then f
  else scaleDown (f / power maxPower) (exponent - maxPower)
termination_by exponent
decreasing_by simp only [maxPower] at *; omega

def scale (significand : Nat) (exponent : Int) : Except Fault Float :=
  let f := (UInt64.ofNat significand).toFloat
  if exponent < 0 then .ok (scaleDown f exponent.natAbs) else scaleUp f exponent.natAbs

/-- The greatest written exponent that is taken at its value. -/
def maxExponent : Nat := 2147483647

def magnitude (n : Numeral) : Except Fault Float :=
  let (whole, dropped) := takeWhole n.whole 0
  let (significand, used) := takeFraction n.fraction whole
  let written := Nat.ofDigitChars 10 n.exponent 0
  if written ≤ maxExponent then
    let exponent : Int := if n.exponentNegative then -(written : Int) else written
    scale significand (dropped - used + exponent)
  else if significand ≠ 0 ∧ !n.exponentNegative then .error .malformed
  else .ok 0

def double (n : Numeral) : Except Fault Number := do
  let f ← n.magnitude
  return .double (if n.negative then -f else f)

def number (n : Numeral) : Except Fault Number :=
  let value := Nat.ofDigitChars 10 n.whole 0
  if n.fraction ≠ [] ∨ n.exponent ≠ [] then n.double
  else if n.negative then
    if 0 < value ∧ value ≤ Word.signedLimit then .ok (.integer (-(value : Int))) else n.double
  else if value < UInt64.size then .ok (.integer value)
  else n.double

/-- What stands at the head of a text that begins like a number: a numeral and the rest of the
text, or a number broken off. -/
inductive Scan where
  | complete (numeral : Numeral) (rest : List Char)
  | broken (fault : Fault)

/-- The fault of a number that stops before a digit that it needs. -/
def needsDigit : List Char → Fault
  | [] => .truncated
  | _ => .malformed

def scanExponent (n : Numeral) (s : List Char) : Scan :=
  match s with
  | e :: rest =>
    if e = 'e' ∨ e = 'E' then
      let (negative, rest) : Bool × List Char :=
        match rest with
        | '+' :: rest => (false, rest)
        | '-' :: rest => (true, rest)
        | rest => (false, rest)
      match rest.takeWhile Char.isDigit with
      | [] => .broken (needsDigit rest)
      | digits =>
        .complete { n with exponentNegative := negative, exponent := digits }
          (rest.dropWhile Char.isDigit)
    else .complete n s
  | [] => .complete n s

/-- Reads the fraction, if there is one, and the exponent. -/
def scanFraction (n : Numeral) (s : List Char) : Scan :=
  match s with
  | '.' :: rest =>
    match rest.takeWhile Char.isDigit with
    | [] => .broken (needsDigit rest)
    | digits => scanExponent { n with fraction := digits } (rest.dropWhile Char.isDigit)
  | s => scanExponent n s

/-- Reads a number without its sign. A whole part of several digits does not begin with zero. -/
def scanUnsigned (negative : Bool) (s : List Char) : Scan :=
  match s.takeWhile Char.isDigit with
  | [] => .broken (needsDigit s)
  | '0' :: _ :: _ => .broken .malformed
  | digits => scanFraction { negative, whole := digits } (s.dropWhile Char.isDigit)

def scan : List Char → Scan
  | '-' :: rest => scanUnsigned true rest
  | s => scanUnsigned false s

end Numeral

end Rail18.Json
