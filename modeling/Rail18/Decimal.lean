/-! # The shortest decimal of a double

A double stands for all reals nearer to it than to its neighbours. Of the decimals in that interval
the one with the fewest digits is chosen, and of those the nearest. -/

namespace Rail18

/-- The decimal `digits · 10 ^ exponent`. -/
structure Decimal where
  digits : Nat
  exponent : Int
deriving DecidableEq, Repr

/-- A positive double `mantissa · 2 ^ exponent`. -/
structure Binary where
  mantissa : Nat
  exponent : Int

namespace Binary

/-- The place value of the sign among the bits of a double. -/
def signBit : Nat := 0x8000000000000000

/-- The place value of the bit above the fraction of a double. -/
def hiddenBit : Nat := 0x10000000000000

def leastExponent : Int := -1074

def ofFloat (f : Float) : Binary :=
  let bits := f.toBits.toNat % signBit
  let fraction := bits % hiddenBit
  let biased : Nat := bits / hiddenBit
  if biased = 0 then ⟨fraction, leastExponent⟩
  else ⟨hiddenBit + fraction, leastExponent + biased - 1⟩

/-- Quarters of the last place between the value and the lower end of its interval: the neighbour
below a power of two is nearer. -/
def below (b : Binary) : Nat :=
  if b.mantissa = hiddenBit ∧ b.exponent ≠ leastExponent then 1 else 2

/-- A power with a non-negative exponent; one where the exponent is negative. -/
def factor (base : Nat) (exponent : Int) : Nat := Nat.pow base exponent.toNat

/-- The decimal of the value's interval on the grid of `10 ^ place`, if there is one. -/
def onGrid (b : Binary) (place : Int) : Option Nat :=
  let quarter := factor 2 (b.exponent - 2) * factor 10 (-place)
  let unit := factor 2 (2 - b.exponent) * factor 10 place
  let value := 4 * b.mantissa * quarter
  let least := (4 * b.mantissa - b.below) * quarter
  let greatest := (4 * b.mantissa + 2) * quarter
  let closed := b.mantissa % 2 = 0
  let inside (n : Nat) : Bool :=
    if closed then least ≤ n * unit && n * unit ≤ greatest
    else least < n * unit && n * unit < greatest
  let low := value / unit
  let high := low + 1
  match inside low, inside high with
  | true, true =>
    let shortfall := value - low * unit
    let excess := high * unit - value
    some (if shortfall < excess ∨ (shortfall = excess ∧ low % 2 = 0) then low else high)
  | true, false => some low
  | false, true => some high
  | false, false => none

/-- How many digits the whole part of `mantissa · 2 ^ exponent / 10 ^ place` may have. -/
def wholeDigits (b : Binary) : Int :=
  let whole := b.mantissa * factor 2 b.exponent / factor 2 (-b.exponent)
  if whole ≠ 0 then (Nat.toDigits 10 whole).length
  else
    -- Below one, count the zeros after the point.
    let inverse := factor 2 (-b.exponent) / b.mantissa
    1 - ((Nat.toDigits 10 inverse).length : Int)

end Binary

def Decimal.normal (d : Decimal) : Decimal :=
  let zeros := ((Nat.toDigits 10 d.digits).reverse.takeWhile (· = '0')).length
  ⟨d.digits / Binary.factor 10 zeros, d.exponent + zeros⟩

/-- The shortest decimal of a positive double. Seventeen digits always do. -/
def Binary.shortest (b : Binary) : Decimal :=
  let top := b.wholeDigits + 1
  let grids := (List.range 20).map fun (n : Nat) => top - (n : Int)
  match grids.findSome? fun place => (b.onGrid place).bind fun digits =>
      if digits = 0 then none else some (Decimal.mk digits place) with
  | some decimal => decimal.normal
  | none => ⟨0, 0⟩

end Rail18
