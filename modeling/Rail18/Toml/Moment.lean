/-! # Moments in TOML

Dates, times of day, and both with or without an offset from universal time. A moment is kept by its
standard text. -/

namespace Rail18.Toml

/-- A number of two digits not above a bound. -/
def twoDigits? (least greatest : Nat) (a b : Char) : Option Nat :=
  let value := Nat.ofDigitChars 10 [a, b] 0
  if a.isDigit ∧ b.isDigit ∧ least ≤ value ∧ value ≤ greatest then some value else none

def daysIn (year month : Nat) : Nat :=
  if month = 2 then if year % 4 = 0 ∧ (year % 100 ≠ 0 ∨ year % 400 = 0) then 29 else 28
  else if [4, 6, 9, 11].contains month then 30
  else 31

def date? : List Char → Option (List Char × List Char)
  | y1 :: y2 :: y3 :: y4 :: '-' :: m1 :: m2 :: '-' :: d1 :: d2 :: rest =>
    if [y1, y2, y3, y4].all Char.isDigit then do
      let month ← twoDigits? 1 12 m1 m2
      let _ ← twoDigits? 1 (daysIn (Nat.ofDigitChars 10 [y1, y2, y3, y4] 0) month) d1 d2
      return ([y1, y2, y3, y4, '-', m1, m2, '-', d1, d2], rest)
    else none
  | _ => none

/-- A fraction of a second to nine digits, without zeros at its end. -/
def secondFraction (digits : List Char) : List Char :=
  match (((digits.take 9).reverse.dropWhile (· = '0')).reverse) with
  | [] => []
  | digits => '.' :: digits

def time? : List Char → Option (List Char × List Char)
  | h1 :: h2 :: ':' :: m1 :: m2 :: ':' :: s1 :: s2 :: rest => do
    let _ ← twoDigits? 0 23 h1 h2
    let _ ← twoDigits? 0 59 m1 m2
    let _ ← twoDigits? 0 60 s1 s2
    let time := [h1, h2, ':', m1, m2, ':', s1, s2]
    match rest with
    | '.' :: rest =>
      match rest.takeWhile Char.isDigit with
      | [] => none
      | digits => some (time ++ secondFraction digits, rest.dropWhile Char.isDigit)
    | rest => some (time, rest)
  | _ => none

/-- The offset from universal time, at the end of a text. -/
def offset? : List Char → Option (List Char)
  | [] => some []
  | ['Z'] | ['z'] => some ['Z']
  | [sign, h1, h2, ':', m1, m2] => do
    if sign ≠ '+' ∧ sign ≠ '-' then none
    let hours ← twoDigits? 0 23 h1 h2
    let minutes ← twoDigits? 0 59 m1 m2
    let sign := if hours + minutes = 0 then '+' else sign
    return [sign, h1, h2, ':', m1, m2]
  | _ => none

def moment? (s : List Char) : Option (List Char) :=
  match date? s with
  | some (date, []) => some date
  | some (date, separator :: rest) => do
    if separator ≠ 'T' ∧ separator ≠ 't' ∧ separator ≠ ' ' then none
    let (time, rest) ← time? rest
    let offset ← offset? rest
    return date ++ 'T' :: time ++ offset
  | none =>
    match time? s with
    | some (time, []) => some time
    | _ => none

end Rail18.Toml
