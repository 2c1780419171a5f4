import Rail18.Dict
import Rail18.Json.Node
import Rail18.Word

/-! # Readers of JSON

A reader walks a tree from left to right and ends at the first fault it meets. It is told how many
more containers may stand inside one another; one too many is a fault of the text.

A record may be written as an object, whose unknown members are passed over and whose known members
may not repeat, or as an array of its first fields in their order. -/

namespace Rail18.Json

/-- Reads a value of a type from a tree, given how many more containers may be opened. -/
abbrev Reader (α : Type) := Nat → Node → Except Fault α

/-- How deeply containers may stand inside one another where they are kept. -/
def maxDepth : Nat := 127

mutual

/-- Keeps a value as it is. Of several members with one name the last one counts. -/
def Node.keep : Nat → Node → Except Fault Value
  | _, .null => .ok .null
  | _, .bool value => .ok (.bool value)
  | _, .number value => value.map .number
  | _, .string text => text.map .string
  | 0, .array .. => .error .malformed
  | room + 1, .array items ending => do
    let values ← keepItems room items
    ending.keep
    return .array values
  | 0, .object .. => .error .malformed
  | room + 1, .object members ending => do
    let members ← keepMembers room members
    ending.keep
    return .object (members.foldl (fun sorted (name, value) => insertEntry name value sorted) [])
  | _, .broken kept _ => .error kept

def keepItems : Nat → List Node → Except Fault (List Value)
  | _, [] => .ok []
  | room, node :: rest => do
    let value ← node.keep room
    return value :: (← keepItems room rest)

def keepMembers :
    Nat → List (Except Fault String × Node) → Except Fault (List (String × Value))
  | _, [] => .ok []
  | room, (name, node) :: rest => do
    let name ← name
    let value ← node.keep room
    return (name, value) :: (← keepMembers room rest)

end

namespace Reader

variable {α β : Type}

def value : Reader Value := fun room node => node.keep room

def text : Reader String := fun _ node =>
  match node with
  | .string (.ok text) => .ok text
  | node => .error node.unfit

def bool : Reader Bool := fun _ node =>
  match node with
  | .bool value => .ok value
  | node => .error node.unfit

/-- An integer that fits a word. A double is never an integer, whatever its value. -/
def integer (word? : Int → Option α) : Reader α := fun _ node =>
  match node with
  | .number (.ok (.integer value)) =>
    match word? value with
    | some word => .ok word
    | none => .error .mismatch
  | node => .error node.unfit

def uint32 : Reader UInt32 := integer Word.uint32?

def uint64 : Reader UInt64 := integer Word.uint64?

def int64 : Reader Int64 := integer Word.int64?

def option (read : Reader α) : Reader (Option α) := fun room node =>
  match node with
  | .null => .ok none
  | node => (read room node).map some

def items (read : Reader α) (room : Nat) : List Node → Except Fault (List α)
  | [] => .ok []
  | node :: rest => do
    let item ← read room node
    return item :: (← items read room rest)

def list (read : Reader α) : Reader (List α) := fun room node =>
  match room, node with
  | 0, .array .. => .error .malformed
  | room + 1, .array nodes ending => do
    let list ← items read room nodes
    ending.keep
    return list
  | _, node => .error node.unfit

def members (read : Reader α) (room : Nat) :
    List (Except Fault String × Node) → Except Fault (List (String × α))
  | [] => .ok []
  | (name, node) :: rest => do
    let name ← name
    let value ← read room node
    return (name, value) :: (← members read room rest)

def dict (read : Reader α) : Reader (Dict String α) := fun room node =>
  match room, node with
  | 0, .object .. => .error .malformed
  | room + 1, .object nodes ending => do
    let entries ← members read room nodes
    ending.keep
    return .ofList entries
  | _, node => .error node.unfit

def map (f : α → β) (read : Reader α) : Reader β := fun room node => (read room node).map f

def firstOf (readers : List (Reader α)) (room : Nat) (node : Node) : Option α :=
  readers.findSome? fun read => (read room node).toOption

/-- A value of one of several forms, tried in order. The whole value has to be sound JSON first. -/
def oneOf (readers : List (Reader α)) : Reader α := fun room node => do
  let _ ← node.keep room
  match firstOf readers room node with
  | some value => return value
  | none => .error .mismatch

end Reader

/-- The fields of a record: the type of each, its written name and its reader, and their order. -/
class Fields (F : Type) [DecidableEq F] where
  Entry : F → Type
  order : List F
  name : F → String
  read : (field : F) → Reader (Entry field)

/-- The fields of a record that have been read. -/
def Record (F : Type) [DecidableEq F] [Fields F] : Type :=
  (field : F) → Option (Fields.Entry field)

namespace Record

variable {F α : Type} [DecidableEq F] [Fields F]

def empty : Record F := fun _ => none

def set (record : Record F) (field : F) (entry : Fields.Entry field) : Record F := fun other =>
  if same : field = other then some (same ▸ entry) else record other

def field? (F : Type) [DecidableEq F] [Fields F] (name : String) : Option F :=
  (Fields.order : List F).find? fun field => Fields.name field = name

/-- Reads the members of an object. A field that repeats is refused at its name. -/
def readMembers (room : Nat) :
    List (Except Fault String × Node) → Record F → Except Fault (Record F)
  | [], record => .ok record
  | (name, node) :: rest, record => do
    let name ← name
    match field? F name with
    | none =>
      node.skip
      readMembers room rest record
    | some field =>
      if (record field).isSome then .error .mismatch
      else
        let entry ← Fields.read field room node
        readMembers room rest (record.set field entry)

/-- Reads the items of an array as the given fields; there may be fewer items, but not more. -/
def readItems (room : Nat) (ending : Ending) :
    List F → List Node → Record F → Except Fault (Record F)
  | _, [], record => do
    ending.keep
    return record
  | [], _ :: _, _ => .error .malformed
  | field :: fields, node :: rest, record => do
    let entry ← Fields.read field room node
    readItems room ending fields rest (record.set field entry)

end Record

/-- The fault at the end of an array of all fields: nothing but the bracket may follow. -/
def Ending.afterLast : Ending → Ending
  | .dangling .. => .missing .malformed .malformed
  | ending => ending

namespace Reader

variable {F α : Type} [DecidableEq F] [Fields F]

def object (build : Record F → Except Fault α) : Reader α := fun room node =>
  match room, node with
  | 0, .object .. => .error .malformed
  | room + 1, .object members ending => do
    let record ← Record.readMembers room members .empty
    ending.keep
    build record
  | _, node => .error node.unfit

/-- A record, written as an object or as an array. -/
def record (build : Record F → Except Fault α) : Reader α := fun room node =>
  match room, node with
  | 0, .array .. => .error .malformed
  | room + 1, .array nodes ending => do
    let fields : List F := Fields.order
    let ending := if nodes.length < fields.length then ending else ending.afterLast
    let record ← Record.readItems room ending fields nodes .empty
    build record
  | room, node => object build room node

end Reader

def Value.read {α : Type} (read : Reader α) (value : Value) : Except Fault α :=
  read maxDepth value.node

/-- Reads a whole text: its value, after which only blanks may follow. -/
def Document.read {α : Type} (read : Reader α) (document : Document) : Except Fault α := do
  let value ← read maxDepth document.root
  if document.trailing then .error .malformed else return value

end Rail18.Json
