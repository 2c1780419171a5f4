import Rail18.Decimal
import Rail18.Toml.Moment
import Rail18.Word

/-! # Numbers, truth values and dates in TOML

Each is kept by the text that it has when it is taken as a text: integers in decimal, doubles in
their shortest decimal without exponent, dates in their standard form. -/

namespace Rail18.Toml

/-- The digits of a number; single underscores may stand between them. -/
def groupedDigits? (isDigit : Char → Bool) : List Char → Option (List Char)
  | [] => none
  | [c] => if isDigit c then some [c] else none
  | c :: '_' :: rest =>
    if isDigit c then (groupedDigits? isDigit rest).map (c :: ·) else none
  | c :: rest => if isDigit c then (groupedDigits? isDigit rest).map (c :: ·) else none

def splitSign : List Char → Bool × List Char
  | '-' :: rest => (true, rest)
  | '+' :: rest => (false, rest)
  | rest => (false, rest)

/-- The digits of a whole number, which begin with zero only when there is but one. -/
def wholeDigits? (s : List Char) : Option (List Char) :=
  match groupedDigits? Char.isDigit s with
  | some ('0' :: _ :: _) => none
  | digits => digits

def digitValue (c : Char) : Nat :=
  if c.isDigit then c.toNat - '0'.toNat else c.toLower.toNat - 'a'.toNat + 10

def valueOf (base : Nat) (digits : List Char) : Nat :=
  digits.foldl (fun value c => value * base + digitValue c) 0

def isDigitOf (base : Nat) (c : Char) : Bool :=
  (c.isDigit || ('a' ≤ c.toLower && c.toLower ≤ 'f')) && digitValue c < base

/-- An integer of 64 bits: decimal with a sign, or hexadecimal, octal or binary. -/
def integer? (s : List Char) : Option Int := do
  let value : Int ←
    match s with
    | '0' :: 'x' :: rest => (groupedDigits? (isDigitOf 16) rest).map fun d => (valueOf 16 d : Int)
    | '0' :: 'o' :: rest => (groupedDigits? (isDigitOf 8) rest).map fun d => (valueOf 8 d : Int)
    | '0' :: 'b' :: rest => (groupedDigits? (isDigitOf 2) rest).map fun d => (valueOf 2 d : Int)
    | s =>
      let (negative, rest) := splitSign s
      (wholeDigits? rest).map fun d => if negative then -(valueOf 10 d : Int) else valueOf 10 d
  if (Word.int64? value).isSome then some value else none

def plainDecimal (d : Decimal) : String :=
  let digits := Nat.toDigits 10 d.digits
  let point := (digits.length : Int) + d.exponent
  if 0 ≤ d.exponent then .ofList (digits ++ List.replicate d.exponent.toNat '0')
  else if 0 < point then .ofList (digits.take point.toNat ++ '.' :: digits.drop point.toNat)
  else .ofList ('0' :: '.' :: List.replicate (-point).toNat '0' ++ digits)

/-- The text of a double that is no integer by its form. -/
def doubleText (negative : Bool) (f : Float) : String :=
  let b := Binary.ofFloat f
  (if negative then "-" else "") ++ if b.mantissa = 0 then "0" else plainDecimal b.shortest

/-- A double with a fraction, an exponent or both. One that is too large is an infinite one below
zero and no double above. -/
def finite? (s : List Char) : Option String := do
  let (negative, s) := splitSign s
  let whole ← wholeDigits? (s.takeWhile fun c => c.isDigit || c = '_')
  let s := s.dropWhile fun c => c.isDigit || c = '_'
  let (fraction, s) : List Char × List Char ←
    match s with
    | '.' :: rest => do
      let digits ← groupedDigits? Char.isDigit (rest.takeWhile fun c => c.isDigit || c = '_')
      pure (digits, rest.dropWhile fun c => c.isDigit || c = '_')
    | s => pure ([], s)
  let exponent : Int ←
    match s with
    | [] => if fraction = [] then none else pure 0
    | e :: rest =>
      if e = 'e' ∨ e = 'E' then do
        let (negative, rest) := splitSign rest
        let digits ← groupedDigits? Char.isDigit rest
        pure (if negative then -(valueOf 10 digits : Int) else valueOf 10 digits)
      else none
  let mantissa := valueOf 10 (whole ++ fraction)
  let scale := exponent - fraction.length
  -- Beyond these bounds every double is zero or infinite.
  let f := if mantissa = 0 ∨ scale < -100000 then 0
    else if 100000 < scale then 1 / 0
    else Float.ofScientific mantissa (decide (scale < 0)) scale.natAbs
  if f.isInf then if negative then some "-inf" else none else some (doubleText negative f)

def double? (s : List Char) : Option String :=
  match s with
  | ['i', 'n', 'f'] | ['+', 'i', 'n', 'f'] => some "inf"
  | ['-', 'i', 'n', 'f'] => some "-inf"
  | ['n', 'a', 'n'] | ['+', 'n', 'a', 'n'] | ['-', 'n', 'a', 'n'] => some "NaN"
  | s => finite? s

/-- The characters of numbers, truth values and dates. -/
def isScalarChar (c : Char) : Bool :=
  c.isAlphanum || c = '+' || c = '-' || c = '.' || c = ':' || c = '_'

/-- The text of a scalar that is written without quotes. -/
def scalarText? (s : List Char) : Option String :=
  if s = ['t', 'r', 'u', 'e'] then some "true"
  else if s = ['f', 'a', 'l', 's', 'e'] then some "false"
  else
    match integer? s with
    | some value => some (toString value)
    | none =>
      match double? s with
      | some text => some text
      | none => (moment? s).map .ofList

/-- The characters that make up a scalar at the head of a text, and the rest. A blank may stand
between a date and a time. -/
def scalarChars (s : List Char) : List Char × List Char :=
  let first := s.takeWhile isScalarChar
  match date? first, s.dropWhile isScalarChar with
  | some (_, []), ' ' :: c :: rest =>
    if c.isDigit then
      (first ++ ' ' :: (c :: rest).takeWhile isScalarChar, (c :: rest).dropWhile isScalarChar)
    else (first, ' ' :: c :: rest)
  | _, rest => (first, rest)

end Rail18.Toml
