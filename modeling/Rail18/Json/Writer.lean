import Rail18.Json.Reader

/-! # Writers of JSON

A record is written as an object of those fields that hold something, in their order. What a field
holds is written by a function of its own, as it is read by one. -/

namespace Rail18.Json

/-- How the entry of each field of a record is written. -/
class Written (F : Type) [DecidableEq F] [Fields F] where
  write : (field : F) → Fields.Entry field → Value

namespace Record

variable {F : Type} [DecidableEq F] [Fields F] [Written F]

/-- The member of a field that holds something. -/
def member? (record : Record F) (field : F) : Option (String × Value) :=
  (record field).map fun entry => (Fields.name field, Written.write field entry)

def members (record : Record F) : List (String × Value) := Fields.order.filterMap record.member?

def toValue (record : Record F) : Value := .object record.members

end Record

/-- The entry of a list, left out when the list is empty. -/
def someUnlessEmpty {α : Type} : List α → Option (List α)
  | [] => none
  | items => some items

/-- The entry of a flag, left out unless the flag is set. -/
def someIfSet (flag : Bool) : Option Bool := if flag then some true else none

namespace Value

def list {α : Type} (write : α → Value) (items : List α) : Value := .array (items.map write)

def option {α : Type} (write : α → Value) (entry : Option α) : Value := .orNull (entry.map write)

end Value

end Rail18.Json
