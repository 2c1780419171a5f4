import Rail18.Json.Numeral
import Rail18.Json.Text

/-! # From text to tree

Every text has a tree. The parser never fails: what it cannot read becomes a broken node or a
faulty ending, after which nothing follows. Its recursion ends by a bound on how many calls stand
inside one another: a bracket takes three, for the value, its contents and the first entry, so three
for each character and one for the end are enough. -/

namespace Rail18.Json

namespace Parse

def isBlank (c : Char) : Bool := c = ' ' || c = '\n' || c = '\t' || c = '\r'

def skipBlanks (s : List Char) : List Char := s.dropWhile isBlank

/-- A broken node of one fault, after which nothing follows. -/
def halt (fault : Fault) : Node × Option (List Char) := (.broken fault fault, none)

/-- Reads the letters of a literal after its first. -/
def literal (node : Node) : List Char → List Char → Node × Option (List Char)
  | [], s => (node, some s)
  | _ :: _, [] => halt .truncated
  | letter :: letters, c :: s => if c = letter then literal node letters s else halt .malformed

def number (s : List Char) : Node × Option (List Char) :=
  match Numeral.scan s with
  | .complete numeral rest => (.number numeral.number, some rest)
  | .broken fault => (.broken fault .malformed, none)

def text (s : List Char) : Node × Option (List Char) :=
  match Text.token s with
  | .complete text rest => (.string text, some rest)
  | .broken kept skipped => (.broken kept skipped, none)

/-- The items or members of a container, how they end, and what follows the container unless it is
broken. -/
structure Contents (α : Type) where
  entries : List α
  ending : Ending
  rest : Option (List Char)

/-- Contents without entries that end by a fault. -/
def Contents.fault {α : Type} (ending : Ending) : Contents α := ⟨[], ending, none⟩

def Contents.close {α : Type} (rest : List Char) : Contents α := ⟨[], .closed, some rest⟩

def Contents.cons {α : Type} (entry : α) (contents : Contents α) : Contents α :=
  { contents with entries := entry :: contents.entries }

mutual

/-- Reads a value; there is no rest after a broken one. -/
def value : Nat → List Char → Node × Option (List Char)
  | 0, _ => halt .malformed
  | fuel + 1, s =>
    match skipBlanks s with
    | [] => halt .truncated
    | c :: rest =>
      if c = '"' then text rest
      else if c = '[' then
        let contents := firstItem fuel rest
        (.array contents.entries contents.ending, contents.rest)
      else if c = '{' then
        let contents := firstMember fuel rest
        (.object contents.entries contents.ending, contents.rest)
      else if c = '-' || c.isDigit then number (c :: rest)
      else if c = 'n' then literal .null ['u', 'l', 'l'] rest
      else if c = 't' then literal (.bool true) ['r', 'u', 'e'] rest
      else if c = 'f' then literal (.bool false) ['a', 'l', 's', 'e'] rest
      else halt .malformed

def firstItem : Nat → List Char → Contents Node
  | 0, _ => .fault (.missing .malformed .malformed)
  | fuel + 1, s =>
    match skipBlanks s with
    | [] => .fault (.missing .truncated .truncated)
    | ']' :: rest => .close rest
    | s => items fuel s

/-- Reads the items of an array from the beginning of one. -/
def items : Nat → List Char → Contents Node
  | 0, _ => .fault (.missing .malformed .malformed)
  | fuel + 1, s =>
    match value fuel s with
    | (node, none) => .cons node (.fault (.missing .malformed .malformed))
    | (node, some rest) =>
      .cons node <|
        match skipBlanks rest with
        | [] => .fault (.missing .truncated .truncated)
        | ']' :: rest => .close rest
        | ',' :: rest =>
          match skipBlanks rest with
          | [] => .fault (.dangling .truncated .truncated)
          | ']' :: _ => .fault (.dangling .malformed .malformed)
          | rest => items fuel rest
        | _ => .fault (.missing .malformed .malformed)

def firstMember : Nat → List Char → Contents (Except Fault String × Node)
  | 0, _ => .fault (.missing .malformed .malformed)
  | fuel + 1, s =>
    match skipBlanks s with
    | [] => .fault (.missing .truncated .truncated)
    | '}' :: rest => .close rest
    | '"' :: rest => members fuel rest
    | _ => .fault (.missing .malformed .malformed)

/-- Reads the members of an object from after the quote that opens a name. -/
def members : Nat → List Char → Contents (Except Fault String × Node)
  | 0, _ => .fault (.missing .malformed .malformed)
  | fuel + 1, s =>
    match Text.token s with
    | .broken kept skipped => .fault (.missing kept skipped)
    | .complete name rest =>
      let (node, rest) : Node × Option (List Char) :=
        match skipBlanks rest with
        | [] => halt .truncated
        | ':' :: rest => value fuel rest
        | _ => halt .malformed
      match rest with
      | none => .cons (name, node) (.fault (.missing .malformed .malformed))
      | some rest =>
        .cons (name, node) <|
          match skipBlanks rest with
          | [] => .fault (.missing .truncated .truncated)
          | '}' :: rest => .close rest
          | ',' :: rest =>
            match skipBlanks rest with
            | [] => .fault (.dangling .truncated .truncated)
            | '"' :: rest => members fuel rest
            | _ => .fault (.dangling .malformed .malformed)
          | _ => .fault (.missing .malformed .malformed)

end

end Parse

def parse (text : String) : Document :=
  let s := text.toList
  let (root, rest) := Parse.value (3 * s.length + 1) s
  { root, trailing := (Parse.skipBlanks (rest.getD [])) ≠ [] }

theorem parse_of_value {text : String} {s : List Char} {root : Node} (htext : text.toList = s)
    (hvalue : Parse.value (3 * s.length + 1) s = (root, some [])) :
    parse text = { root, trailing := false } := by
  rw [parse, htext, hvalue]
  rfl

end Rail18.Json
