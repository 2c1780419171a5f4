import Rail18.Decimal
import Rail18.Json.Value

/-! # Writing JSON

Two ways of writing a value: in one line without blanks, and with an indent of two blanks for each
container. -/

namespace Rail18.Json

/-- How many digits a number may have before its point when it is written without exponent. -/
def maxPositional : Int := 16

/-- How many zeros may follow the point of a number that is written without exponent. -/
def maxLeadingZeros : Int := 4

/-- The exponent of a number, with its sign in front. -/
def exponentText (exponent : Int) : String :=
  (if exponent < 0 then "e-" else "e+") ++ toString exponent.natAbs

/-- The digits of a decimal with a point, or with an exponent when the point is far away. -/
def decimalText (d : Decimal) : String :=
  let digits := Nat.toDigits 10 d.digits
  let point := (digits.length : Int) + d.exponent
  if 0 ≤ d.exponent ∧ point ≤ maxPositional then
    .ofList (digits ++ List.replicate d.exponent.toNat '0' ++ ['.', '0'])
  else if 0 < point ∧ point ≤ maxPositional then
    .ofList (digits.take point.toNat ++ '.' :: digits.drop point.toNat)
  else if -maxLeadingZeros ≤ point ∧ point ≤ 0 then
    .ofList ('0' :: '.' :: List.replicate (-point).toNat '0' ++ digits)
  else
    let fraction := if digits.length = 1 then [] else '.' :: digits.drop 1
    .ofList (digits.take 1 ++ fraction) ++ exponentText (point - 1)

def doubleText (f : Float) : String :=
  let sign := if f.toBits.toNat < Binary.signBit then "" else "-"
  let b := Binary.ofFloat f
  sign ++ if b.mantissa = 0 then "0.0" else decimalText b.shortest

def Number.text : Number → String
  | .integer value => toString value
  | .double value => doubleText value

/-- The four hexadecimal digits of a control character. -/
def unitDigits (c : Char) : List Char :=
  let digits := Nat.toDigits 16 c.toNat
  List.replicate (4 - digits.length) '0' ++ digits

def stringChar (c : Char) : List Char :=
  if c = '"' ∨ c = '\\' then ['\\', c]
  else if c = '\n' then ['\\', 'n']
  else if c = '\r' then ['\\', 'r']
  else if c = '\t' then ['\\', 't']
  else if c = '\x08' then ['\\', 'b']
  else if c = '\x0c' then ['\\', 'f']
  else if c.toNat < 0x20 then '\\' :: 'u' :: unitDigits c
  else [c]

def stringText (s : String) : String :=
  .ofList ('"' :: s.toList.flatMap stringChar ++ ['"'])

namespace Value

mutual

def compact : Value → String
  | .null => "null"
  | .bool true => "true"
  | .bool false => "false"
  | .number value => value.text
  | .string text => stringText text
  | .array items => "[" ++ ",".intercalate (compactItems items) ++ "]"
  | .object members => "\x7b" ++ ",".intercalate (compactMembers members) ++ "\x7d"

def compactItems : List Value → List String
  | [] => []
  | value :: rest => value.compact :: compactItems rest

def compactMembers : List (String × Value) → List String
  | [] => []
  | (name, value) :: rest => (stringText name ++ ":" ++ value.compact) :: compactMembers rest

end

/-- A line break and an indent of two blanks for each open container. -/
def lineBreak (level : Nat) : String := .ofList ('\n' :: List.replicate (2 * level) ' ')

/-- Entries on lines of their own between brackets; without entries the brackets alone. -/
def block (opening closing : String) (level : Nat) (entries : List String) : String :=
  if entries.isEmpty then opening ++ closing
  else
    opening ++ lineBreak (level + 1) ++ ("," ++ lineBreak (level + 1)).intercalate entries ++
      lineBreak level ++ closing

mutual

/-- A value inside `level` open containers, every entry of a container on a line of its own. -/
def indented (level : Nat) : Value → String
  | .array items => block "[" "]" level (indentedItems (level + 1) items)
  | .object members => block "\x7b" "\x7d" level (indentedMembers (level + 1) members)
  | .null => "null"
  | .bool true => "true"
  | .bool false => "false"
  | .number value => value.text
  | .string text => stringText text

def indentedItems (level : Nat) : List Value → List String
  | [] => []
  | value :: rest => value.indented level :: indentedItems level rest

def indentedMembers (level : Nat) : List (String × Value) → List String
  | [] => []
  | (name, value) :: rest =>
    (stringText name ++ ": " ++ value.indented level) :: indentedMembers level rest

end

/-- A value with an indent of two blanks for each container. -/
def pretty (value : Value) : String := value.indented 0

end Value

end Rail18.Json
