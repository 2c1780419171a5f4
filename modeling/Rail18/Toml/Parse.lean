import Rail18.Toml.Item
import Rail18.Toml.Scalar
import Rail18.Toml.Text

/-! # Reading TOML

A document is read into statements, line by line, which are then carried out. -/

namespace Rail18.Toml

def skipBlanks (s : List Char) : List Char := s.dropWhile fun c => c = ' ' || c = '\t'

/-- What follows blanks and a comment on a line. -/
def skipComment? (s : List Char) : Option (List Char) :=
  match skipBlanks s with
  | '#' :: rest =>
    let rest := rest.dropWhile fun c => !isControl c
    match rest with
    | [] => some []
    | rest => if (lineBreak? rest).isSome then some rest else none
  | rest => some rest

def lineEnd? (s : List Char) : Option (List Char) := do
  match ← skipComment? s with
  | [] => some []
  | rest => lineBreak? rest

def skipLines? : Nat → List Char → Option (List Char)
  | 0, _ => none
  | fuel + 1, s => do
    let rest ← skipComment? s
    match lineBreak? rest with
    | some rest => skipLines? fuel rest
    | none => some rest

/-- The characters of a key that is not quoted. -/
def isKeyChar (c : Char) : Bool := c.isAlphanum || c = '_' || c = '-'

def key? (s : List Char) : Option (String × List Char) :=
  match s with
  | '"' :: rest =>
    (line? '"' true (rest.length + 1) rest).map fun (key, rest) => (.ofList key, rest)
  | '\'' :: rest =>
    (line? '\'' false (rest.length + 1) rest).map fun (key, rest) => (.ofList key, rest)
  | s =>
    match s.takeWhile isKeyChar with
    | [] => none
    | key => some (.ofList key, s.dropWhile isKeyChar)

/-- Keys between dots: those that lead to the last, the last, and the rest. -/
def dottedKeys? : Nat → List Char → Option (List String × String × List Char)
  | 0, _ => none
  | fuel + 1, s => do
    let (key, rest) ← key? (skipBlanks s)
    match skipBlanks rest with
    | '.' :: rest =>
      let (path, last, rest) ← dottedKeys? fuel rest
      return (key :: path, last, rest)
    | rest => return ([], key, rest)

/-- How many containers may be open at once, and how many keys may stand between dots. -/
def maxDepth : Nat := 79

/-- Keys between dots, if they are not too many. -/
def keys? (s : List Char) : Option (List String × String × List Char) := do
  let (path, key, rest) ← dottedKeys? (s.length + 1) s
  if path.length < maxDepth then some (path, key, rest) else none

mutual

/-- A value where `depth` more containers may be opened. -/
def value? : Nat → Nat → List Char → Option (Item × List Char)
  | 0, _, _ => none
  | fuel + 1, depth, s =>
    match s, depth with
    | '"' :: rest, _ => (string? '"' rest).map fun (text, rest) => (.text (.ofList text), rest)
    | '\'' :: rest, _ => (string? '\'' rest).map fun (text, rest) => (.text (.ofList text), rest)
    | '[' :: _, 0 | '{' :: _, 0 => none
    | '[' :: rest, depth + 1 =>
      (items? fuel depth [] rest).map fun (items, rest) => (.array items, rest)
    | '{' :: rest, depth + 1 =>
      match skipBlanks rest with
      | '}' :: rest => some (.closed [], rest)
      | rest => (members? fuel depth [] rest).map fun (members, rest) => (.closed members, rest)
    | s, _ => do
      let (chars, rest) := scalarChars s
      let text ← scalarText? chars
      return (.scalar text, rest)

/-- The items of an array after those before, from after its bracket or a comma on. -/
def items? : Nat → Nat → List Item → List Char → Option (List Item × List Char)
  | 0, _, _, _ => none
  | fuel + 1, depth, items, s => do
    match ← skipLines? (s.length + 1) s with
    | ']' :: rest => some (items, rest)
    | s =>
      let (item, rest) ← value? fuel depth s
      match ← skipLines? (rest.length + 1) rest with
      | ']' :: rest => some (items ++ [item], rest)
      | ',' :: rest => items? fuel depth (items ++ [item]) rest
      | _ => none

/-- The members of a table that is written as a value, after those before. -/
def members? : Nat → Nat → Members → List Char → Option (Members × List Char)
  | 0, _, _, _ => none
  | fuel + 1, depth, members, s => do
    let (path, key, item, rest) ← assignment? fuel depth s
    let members ← assign path key item members
    match skipBlanks rest with
    | '}' :: rest => return (members, rest)
    | ',' :: rest => members? fuel depth members rest
    | _ => none

def assignment? : Nat → Nat → List Char → Option (List String × String × Item × List Char)
  | 0, _, _ => none
  | fuel + 1, depth, s => do
    let (path, key, rest) ← keys? s
    match rest with
    | '=' :: rest =>
      let (item, rest) ← value? fuel depth (skipBlanks rest)
      return (path, key, item, rest)
    | _ => none

end

def statement? (s : List Char) : Option (Statement × List Char) :=
  match s with
  | '[' :: '[' :: rest => do
    let (path, key, rest) ← keys? rest
    match rest with
    | ']' :: ']' :: rest => return (.arrayHeader path key, rest)
    | _ => none
  | '[' :: rest => do
    let (path, key, rest) ← keys? rest
    match rest with
    | ']' :: rest => return (.header path key, rest)
    | _ => none
  | s => do
    let (path, key, item, rest) ← assignment? (2 * s.length + 2) maxDepth s
    return (.assignment path key item, rest)

def statements? : Nat → List Char → Option (List Statement)
  | 0, _ => none
  | fuel + 1, s => do
    match ← skipLines? (s.length + 1) s with
    | [] => return []
    | s =>
      let (statement, rest) ← statement? s
      let rest ← lineEnd? rest
      return statement :: (← statements? fuel rest)

/-- The members of a document, which may not be marked as a moment itself. A mark of the byte order
at its beginning is passed over. -/
def parse? (text : String) : Option Members := do
  let s := match text.toList with
    | '\uFEFF' :: rest => rest
    | s => s
  let members ← perform (← statements? (s.length + 1) s) [] []
  if (moment members).isNone && membersAreSound members then some members else none

end Rail18.Toml
