/-! # JSON values

The data of a JSON text. Members of an object stand in the order in which they are written out. -/

namespace Rail18.Json

/-- An integer of at most 64 bits, with or without a sign, or else a double. -/
inductive Number where
  | integer (value : Int)
  | double (value : Float)

inductive Value where
  | null
  | bool (value : Bool)
  | number (value : Number)
  | string (text : String)
  | array (items : List Value)
  | object (members : List (String × Value))

namespace Value

def integer (value : Int) : Value := .number (.integer value)

def natural (value : Nat) : Value := .integer value

def orNull (value : Option Value) : Value := value.getD .null

def isNumber : Value → Bool
  | .number _ => true
  | _ => false

def optional (name : String) (value : Option Value) : List (String × Value) :=
  match value with
  | some value => [(name, value)]
  | none => []

def listed (name : String) (items : List Value) : List (String × Value) :=
  match items with
  | [] => []
  | items => [(name, .array items)]

def strings (texts : List String) : Value := .array (texts.map .string)

end Value

end Rail18.Json
