import Rail18.Toml.Moment

/-! # TOML items

What a TOML document holds: scalars by their text, arrays by their items, tables by their members.

A table that is written as a value is closed; no header and no key of another line adds to it. Any
other table is *implied* while only longer headers or dotted keys mention it, and *dotted* when a
dotted key made it. An implied table that no dotted key made may still get a header of its own; a
dotted table may only be extended by dotted keys. -/

namespace Rail18.Toml

/-- An item of a document. Of an array of tables the last one is open. -/
inductive Item where
  | text (text : String)
  | scalar (text : String)
  | array (items : List Item)
  | closed (members : List (String × Item))
  | table (implied dotted : Bool) (members : List (String × Item))
  | tables (before : List Item) (last : List (String × Item))

/-- The members of a table by key, in the order written. -/
abbrev Members := List (String × Item)

/-- Changes the member with a key, or makes one. -/
def changeMember (key : String) (change : Option Item → Option Item) : Members → Option Members
  | [] => (change none).map fun item => [(key, item)]
  | (other, item) :: rest =>
    if other = key then (change (some item)).map fun item => (other, item) :: rest
    else (changeMember key change rest).map ((other, item) :: ·)

/-- Changes the table at the end of a path of keys that were written with dots. `dotted` tells
whether the table before them was made by dots. -/
def changeDotted (change : Bool → Members → Option Members) :
    List String → Bool → Members → Option Members
  | [], dotted, members => change dotted members
  | key :: keys, _, members =>
    changeMember key (fun item =>
      match item with
      | none => (changeDotted change keys true []).map (.table true true)
      | some (.table true dotted members) =>
        (changeDotted change keys dotted members).map (.table true dotted)
      | some (.tables before last) =>
        (changeDotted change keys false last).map (.tables before)
      | some _ => none) members

/-- Changes the table at the end of a path of keys from a header. -/
def changeHeader (change : Members → Option Members) : List String → Members → Option Members
  | [], members => change members
  | key :: keys, members =>
    changeMember key (fun item =>
      match item with
      | none => (changeHeader change keys []).map (.table true false)
      | some (.table implied dotted members) =>
        (changeHeader change keys members).map (.table implied dotted)
      | some (.tables before last) => (changeHeader change keys last).map (.tables before)
      | some _ => none) members

/-- Adds a member that is not there yet. -/
def addMember (key : String) (item : Item) (members : Members) : Option Members :=
  changeMember key (fun found => if found.isSome then none else some item) members

/-- Assigns an item to a key with the keys that lead to it. -/
def assign (path : List String) (key : String) (item : Item) (members : Members) :
    Option Members :=
  changeDotted (fun dotted members =>
    if dotted = path.isEmpty then none else addMember key item members) path false members

def openTable (path : List String) (key : String) (members : Members) : Option Members :=
  changeHeader (changeMember key fun item =>
    match item with
    | none => some (.table false false [])
    | some (.table true false members) => some (.table false false members)
    | some _ => none) path members

/-- Opens another table of an array of tables. -/
def openTables (path : List String) (key : String) (members : Members) : Option Members :=
  changeHeader (changeMember key fun item =>
    match item with
    | none => some (.tables [] [])
    | some (.tables before last) => some (.tables (before ++ [.table false false last]) [])
    | some _ => none) path members

/-- A line of a document that says something: a header, or an assignment. -/
inductive Statement where
  | header (path : List String) (key : String)
  | arrayHeader (path : List String) (key : String)
  | assignment (path : List String) (key : String) (item : Item)

/-- Carries out statements one after the other; `place` leads to the table of the last header. -/
def perform : List Statement → List String → Members → Option Members
  | [], _, members => some members
  | .header path key :: rest, _, members => do
    perform rest (path ++ [key]) (← openTable path key members)
  | .arrayHeader path key :: rest, _, members => do
    perform rest (path ++ [key]) (← openTables path key members)
  | .assignment path key item :: rest, place, members => do
    perform rest place (← changeHeader (assign path key item) place members)

/-- The key that marks a table as a moment when it comes first. -/
def momentKey : String := "$__toml_private_datetime"

/-- The moment that a table stands for, if its first key marks it as one. A moment has to be spelled
in a string. -/
def moment : Members → Option (Option String)
  | [] => none
  | (key, item) :: _ =>
    if key = momentKey then
      match item with
      | .text text => some ((moment? text.toList).map .ofList)
      | _ => some none
    else none

mutual

/-- Whether every table of an item that is marked as a moment is one. -/
def Item.isSound : Item → Bool
  | .text _ | .scalar _ => true
  | .array items => areSound items
  | .closed members | .table _ _ members =>
    match moment members with
    | some value => value.isSome
    | none => membersAreSound members
  | .tables before last =>
    areSound before &&
      match moment last with
      | some value => value.isSome
      | none => membersAreSound last

/-- Whether every marked table of some items is a moment. -/
def areSound : List Item → Bool
  | [] => true
  | item :: rest => item.isSound && areSound rest

/-- Whether every marked table below a table is a moment. -/
def membersAreSound : Members → Bool
  | [] => true
  | (_, item) :: rest => item.isSound && membersAreSound rest

end

end Rail18.Toml
