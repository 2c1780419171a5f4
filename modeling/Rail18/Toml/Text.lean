import Rail18.Json.Text

/-! # Strings in TOML

Strings between quotes with escapes and between apostrophes without, each on one line or between
three marks on several. -/

namespace Rail18.Toml

/-- Control characters, but for the tab, may not stand in a document. -/
def isControl (c : Char) : Bool := (c.toNat < 0x20 && c ≠ '\t') || c.toNat = 0x7F

/-- The line break that a text begins with. -/
def lineBreak? : List Char → Option (List Char)
  | '\n' :: rest => some rest
  | '\r' :: '\n' :: rest => some rest
  | _ => none

/-- A text without the line break that it may begin with. -/
def afterBreak (s : List Char) : List Char := (lineBreak? s).getD s

def hexValue? (digits : List Char) : Option Nat :=
  digits.foldlM (fun value c => (Json.Text.hexDigit? c).map (value * 16 + ·)) 0

/-- The character with a code point of so many hexadecimal digits, and the rest. -/
def codePoint? (count : Nat) (s : List Char) : Option (Char × List Char) := do
  let digits := s.take count
  if digits.length < count then none
  let code ← hexValue? digits
  if code.isValidChar then some (Char.ofNat code, s.drop count) else none

def escape? : List Char → Option (Char × List Char)
  | 'b' :: rest => some ('\x08', rest)
  | 't' :: rest => some ('\t', rest)
  | 'n' :: rest => some ('\n', rest)
  | 'f' :: rest => some ('\x0c', rest)
  | 'r' :: rest => some ('\r', rest)
  | '"' :: rest => some ('"', rest)
  | '\\' :: rest => some ('\\', rest)
  | 'u' :: rest => codePoint? 4 rest
  | 'U' :: rest => codePoint? 8 rest
  | _ => none

/-- Reads a string of one line after its opening mark. -/
def line? (mark : Char) (escapes : Bool) : Nat → List Char → Option (List Char × List Char)
  | 0, _ => none
  | _, [] => none
  | fuel + 1, c :: rest =>
    if c = mark then some ([], rest)
    else if c = '\\' ∧ escapes then do
      let (c, rest) ← escape? rest
      let (text, rest) ← line? mark escapes fuel rest
      return (c :: text, rest)
    else if isControl c then none
    else do
      let (text, rest) ← line? mark escapes fuel rest
      return (c :: text, rest)

/-- A text from its next character that is no blank and no line break. -/
def skipFold : List Char → List Char
  | ' ' :: rest | '\t' :: rest | '\n' :: rest | '\r' :: '\n' :: rest => skipFold rest
  | rest => rest

/-- What follows a backslash at the end of a line: the text from its next visible character. -/
def afterFold? (s : List Char) : Option (List Char) :=
  (lineBreak? (s.dropWhile fun c => c = ' ' || c = '\t')).map skipFold

/-- Reads a string of several lines after its opening marks. Up to two marks may stand before the
closing ones. -/
def lines? (mark : Char) (escapes : Bool) : Nat → List Char → Option (List Char × List Char)
  | 0, _ => none
  | _, [] => none
  | fuel + 1, c :: rest =>
    if c = mark then
      let marks := (c :: rest).takeWhile (· = mark)
      let rest := (c :: rest).dropWhile (· = mark)
      if marks.length < 3 then do
        let (text, rest) ← lines? mark escapes fuel rest
        return (marks ++ text, rest)
      else if marks.length ≤ 5 then some (marks.drop 3, rest)
      else none
    else if c = '\\' ∧ escapes then
      match afterFold? rest with
      | some rest => lines? mark escapes fuel rest
      | none => do
        let (c, rest) ← escape? rest
        let (text, rest) ← lines? mark escapes fuel rest
        return (c :: text, rest)
    else
      match lineBreak? (c :: rest) with
      | some rest => do
        let (text, rest) ← lines? mark escapes fuel rest
        return ('\n' :: text, rest)
      | none =>
        if isControl c then none
        else do
          let (text, rest) ← lines? mark escapes fuel rest
          return (c :: text, rest)

def string? (mark : Char) (s : List Char) : Option (List Char × List Char) :=
  let escapes := mark = '"'
  match s with
  | a :: b :: rest =>
    if a = mark ∧ b = mark then lines? mark escapes (rest.length + 1) (afterBreak rest)
    else line? mark escapes (s.length + 1) s
  | s => line? mark escapes (s.length + 1) s

end Rail18.Toml
