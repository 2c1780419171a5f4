import Rail18.Settings.Basic
import Rail18.Text.Case
import Rail18.Text.Integer
import Rail18.Toml.Item
import Rail18.Word

/-! # Layers of settings

What one source says of the settings. Names count without regard to case. A name may be a path:
names after dots and indices in brackets lead into the setting that it begins with. -/

namespace Rail18

open Toml (Item)

/-- What a layer says of a setting. Only a text can become its value. -/
inductive Entry where
  | text (text : String)
  | emptyTable
  | container
deriving DecidableEq, Repr

def isNameChar (c : Char) : Bool := c.isAlphanum || c = ' ' || c = '_' || c = '-'

/-- The blanks that may stand around an index. -/
def isIndexBlank (c : Char) : Bool := c = ' ' || c = '\t'

/-- What follows an index, from after its opening bracket on. An index fits a signed word. -/
def afterIndex? (s : List Char) : Option (List Char) := do
  let (sign, s) : List Char × List Char :=
    match s.dropWhile isIndexBlank with
    | '-' :: rest => (['-'], rest)
    | rest => ([], rest)
  let index ← Text.integer? (sign ++ s.takeWhile Char.isDigit)
  let _ ← Word.int64? index
  match (s.dropWhile Char.isDigit).dropWhile isIndexBlank with
  | ']' :: rest => some rest
  | _ => none

def afterStep? : List Char → Option (List Char)
  | '.' :: rest =>
    if (rest.takeWhile isNameChar).isEmpty then none else some (rest.dropWhile isNameChar)
  | '[' :: rest => afterIndex? rest
  | _ => none

/-- Whether a text is nothing but steps, of which it has at most `fuel`. -/
def areSteps : Nat → List Char → Bool
  | _, [] => true
  | 0, _ => false
  | fuel + 1, s =>
    match afterStep? s with
    | some rest => areSteps fuel rest
    | none => false

/-- The setting that a path leads into; there is none if the name is no path or has no steps. -/
def leadsInto? (name : String) : Option String :=
  match name.toList.takeWhile isNameChar, name.toList.dropWhile isNameChar with
  | [], _ | _, [] => none
  | setting, steps => if areSteps steps.length steps then some (.ofList setting) else none

/-- What an item of a document says of a setting. -/
def Toml.Item.entry : Item → Entry
  | .text value | .scalar value => .text value
  | .closed members | .table _ _ members =>
    match Toml.moment members with
    | some (some value) => .text value
    | _ => if members.isEmpty then .emptyTable else .container
  | .array _ | .tables _ _ => .container

/-- What is said of settings by their names in lowercase. -/
abbrev Layer := List (String × Entry)

namespace Layer

/-- What an entry under a name says. A path makes a container of the setting that it leads into. -/
def line (name : String) (entry : Entry) : String × Entry :=
  match leadsInto? (Text.lower name) with
  | some setting => (setting, .container)
  | none => (Text.lower name, entry)

def ofMembers (members : Toml.Members) : Layer :=
  members.map fun (name, item) => line name item.entry

/-- The beginning of the names of the program's variables, in lowercase. -/
def variableMark : List Char := "export18_".toList

/-- The layer of the program's variables, without the beginning of their names. -/
def ofEnvironment (env : Environment) : Layer :=
  env.filterMap fun (name, text) =>
    let name := (Text.lower name).toList
    if variableMark.isPrefixOf name then
      some (line (.ofList (name.drop variableMark.length)) (.text text))
    else none

/-- An entry over another. An empty table leaves what is there. -/
def overlay (base : Option Entry) : Entry → Entry
  | .emptyTable => base.getD .emptyTable
  | entry => entry

/-- What all layers say of a setting, the last on top. -/
def settle (layers : List Layer) (name : String) : Option Entry :=
  (layers.flatten.filter (·.1 = name)).foldl (fun base line => some (overlay base line.2)) none

end Layer

end Rail18
