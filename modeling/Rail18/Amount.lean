import Rail18.Json.Reader
import Rail18.Malformed
import Rail18.Text.Blank
import Rail18.Text.Integer

/-! # Amounts and counts

Revenues, costs and prices are numbers or texts; so are the counts of trains and tiles. A text is
taken as a number where one is needed, with the infinity marker for what is unlimited. -/

namespace Rail18

open Json (Reader Value)

/-- Written in place of a number for what is unlimited. -/
def infinityMarker : List Char := ['∞']

/-- A revenue, cost or price. -/
inductive Amount where
  | number (value : Int64)
  | text (text : String)
deriving DecidableEq

namespace Amount

def shown : Amount → String
  | number value => toString value.toInt
  | text written => written

/-- The cost of a diesel revenue, which is written as `D` and the cost. -/
def dieselCost : Amount → Option String
  | number _ => none
  | text written =>
    match written.toList with
    | 'D' :: cost => some (.ofList cost)
    | _ => none

/-- The integer of a text that fits 64 bits. -/
def signedWord? (s : List Char) : Option Int64 := (Text.integer? s).bind Word.int64?

/-- The number that an amount stands for in a field that may be unlimited. -/
def resolve (field : String) (unlimited : Option Int64) : Amount → Except Malformed Int64
  | number value => .ok value
  | text written =>
    let trimmed := Text.trim written.toList
    if trimmed = infinityMarker then
      match unlimited with
      | some value => .ok value
      | none => .error (.notLimited field)
    else
      match signedWord? trimmed with
      | some value => .ok value
      | none => .error (.notNumber field written)

def read : Reader Amount := .oneOf [.map number .int64, .map text .text]

def toValue : Amount → Value
  | number value => .integer value.toInt
  | text written => .string written

end Amount

/-- How many of a train or tile there are. -/
inductive Count where
  | number (value : UInt32)
  | text (text : String)
deriving DecidableEq

namespace Count

/-- The natural number of a text that fits 32 bits. -/
def word? (s : List Char) : Option UInt32 :=
  (Text.natural? s).bind fun value => Word.uint32? value

/-- The number that a count stands for; `unlimited` is that of the infinity marker. -/
def resolve (field : String) (unlimited : UInt32) : Count → Except Malformed UInt32
  | number value => .ok value
  | text written =>
    let trimmed := Text.trim written.toList
    if trimmed = infinityMarker then .ok unlimited
    else
      match word? trimmed with
      | some value => .ok value
      | none => .error (.notQuantity field written)

def read : Reader Count := .oneOf [.map number .uint32, .map text .text]

end Count

end Rail18
