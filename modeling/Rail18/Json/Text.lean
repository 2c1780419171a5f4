import Rail18.Json.Node

/-! # Strings in a JSON text

A string is scanned character by character into pieces, characters and escaped sixteen-bit units.
The units of a pair of surrogates stand for one character; a surrogate outside a pair stands for
none, which matters only where the string is kept. -/

namespace Rail18.Json.Text

/-- A character as it is meant, or a unit written as an escape of four hexadecimal digits. -/
inductive Piece where
  | char (c : Char)
  | unit (code : Nat)

/-- How a string ends: before the rest of the text, or by a fault. -/
inductive Close where
  | closed (rest : List Char)
  | broken (fault : Fault)

/-- Where in a string the scanner stands: between pieces, after a backslash, or before some of the
hexadecimal digits of a unit. -/
inductive Place where
  | plain
  | escape
  | unit (left value : Nat)

/-- The character for the letter of a short escape. -/
def escaped? : Char → Option Char
  | '"' => some '"'
  | '\\' => some '\\'
  | '/' => some '/'
  | 'b' => some '\x08'
  | 'f' => some '\x0c'
  | 'n' => some '\n'
  | 'r' => some '\r'
  | 't' => some '\t'
  | _ => none

def hexDigit? (c : Char) : Option Nat :=
  if '0' ≤ c ∧ c ≤ '9' then some (c.toNat - '0'.toNat)
  else if 'a' ≤ c ∧ c ≤ 'f' then some (c.toNat - 'a'.toNat + 10)
  else if 'A' ≤ c ∧ c ≤ 'F' then some (c.toNat - 'A'.toNat + 10)
  else none

def byteLength (s : List Char) : Nat := (String.ofList s).utf8ByteSize

/-- The fault of a unit whose next digit is missing: the text ends too early when fewer bytes are
left than the unit needs. -/
def unitFault (left : Nat) (s : List Char) : Fault :=
  if byteLength s < left then .truncated else .malformed

def scan : Place → List Char → List Piece × Close
  | .plain, [] => ([], .broken .truncated)
  | .plain, c :: rest =>
    if c = '"' then ([], .closed rest)
    else if c = '\\' then scan .escape rest
    else if c.toNat < 0x20 then ([], .broken .malformed)
    else
      let (pieces, close) := scan .plain rest
      (.char c :: pieces, close)
  | .escape, [] => ([], .broken .truncated)
  | .escape, c :: rest =>
    if c = 'u' then scan (.unit 4 0) rest
    else
      match escaped? c with
      | some c =>
        let (pieces, close) := scan .plain rest
        (.char c :: pieces, close)
      | none => ([], .broken .malformed)
  | .unit left _, [] => ([], .broken (unitFault left []))
  | .unit left value, c :: rest =>
    match hexDigit? c with
    | none => ([], .broken (unitFault left (c :: rest)))
    | some digit =>
      if left ≤ 1 then
        let (pieces, close) := scan .plain rest
        (.unit (value * 16 + digit) :: pieces, close)
      else scan (.unit (left - 1) (value * 16 + digit)) rest

def isLeading (code : Nat) : Bool := 0xD800 ≤ code && code < 0xDC00

def isTrailing (code : Nat) : Bool := 0xDC00 ≤ code && code < 0xE000

/-- The characters that the pieces of a string stand for, where the string ends with `close`. -/
def characters (close : Close) : List Piece → Except Fault (List Char)
  | [] =>
    match close with
    | .closed _ => .ok []
    | .broken fault => .error fault
  | .char c :: rest => do return c :: (← characters close rest)
  | .unit code :: rest =>
    if isTrailing code then .error .malformed
    else if isLeading code then
      match rest with
      | .unit second :: rest =>
        if isTrailing second then do
          let c := Char.ofNat (0x10000 + (code - 0xD800) * 0x400 + (second - 0xDC00))
          return c :: (← characters close rest)
        else .error .malformed
      | .char _ :: _ => .error .malformed
      | [] =>
        match close with
        | .closed _ => .error .malformed
        | .broken fault => .error fault
    else do return Char.ofNat code :: (← characters close rest)

/-- What a text after an opening quote holds: a string and the rest, or a string broken off, with
its fault where it is kept and where it is passed over. -/
inductive Token where
  | complete (text : Except Fault String) (rest : List Char)
  | broken (kept skipped : Fault)

def token (s : List Char) : Token :=
  let (pieces, close) := scan .plain s
  let text := characters close pieces
  match close with
  | .closed rest => .complete (text.map .ofList) rest
  | .broken skipped =>
    match text with
    | .error kept => .broken kept skipped
    | .ok _ => .broken skipped skipped

end Rail18.Json.Text
