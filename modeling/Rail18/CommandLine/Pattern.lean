import Rail18.Json.Text
import Rail18.Text.Alphanumeric
import Rail18.Text.Blank

/-! # Patterns

The regular expressions that a log filter may ask of the value of a field. All that counts is
whether a pattern can be used: it has to be well formed and not nested too deeply, it may match
whole characters only, and it may look for the ends of words in ASCII texts only. A log filter never
closes a brace that it has opened in a pattern, so whatever needs a pair of braces is malformed. -/

namespace Rail18.Pattern

/-- How a pattern is read from some place on: whether blanks and comments are passed over, and
whether it is about the characters of every script or about ASCII. -/
structure Mode where
  verbose : Bool := false
  everyScript : Bool := true

/-- A text after blanks and comments; `comment` tells whether it begins in a comment. -/
def skipGap (comment : Bool) : List Char → List Char
  | [] => []
  | c :: rest =>
    if comment then skipGap (c ≠ '\n') rest
    else if Text.isBlank c then skipGap false rest
    else if c = '#' then skipGap true rest
    else c :: rest

/-- A text from the next character that counts. -/
def Mode.skip (mode : Mode) (s : List Char) : List Char :=
  if mode.verbose then skipGap false s else s

/-- The character after a dash in a set. A comment counts from its first character that is no blank.
-/
def Mode.afterDash? (mode : Mode) (s : List Char) : Option Char :=
  if mode.verbose then
    match s.dropWhile Text.isBlank with
    | '#' :: rest => (rest.dropWhile Text.isBlank).head?
    | rest => rest.head?
  else s.head?

/-- Whether a character may stand where only single bytes count. -/
def Mode.admits (mode : Mode) (c : Char) : Bool := mode.everyScript || c.toNat < 0x80

/-- What an escape stands for: a character, one of several, or a position in the text. -/
inductive Escape where
  | character (c : Char)
  | choice
  | position

def hexDigits? (mode : Mode) : Nat → List Char → Option (List Nat × List Char)
  | 0, s => some ([], s)
  | count + 1, s =>
    match mode.skip s with
    | [] => none
    | c :: rest => do
      let digit ← Json.Text.hexDigit? c
      let (digits, rest) ← hexDigits? mode count rest
      return (digit :: digits, rest)

/-- A character by its code point in so many digits. Two digits give a byte where bytes count. -/
def codePoint? (mode : Mode) (count : Nat) (s : List Char) : Option (Escape × List Char) := do
  let (digits, rest) ← hexDigits? mode count s
  let code := digits.foldl (fun value digit => value * 16 + digit) 0
  if code.isValidChar && (count ≠ 2 || mode.admits (Char.ofNat code)) then
    some (.character (Char.ofNat code), rest)
  else none

/-- The initials of the general categories of characters. -/
def categories : List Char := "clmnpsz".toList

def escape? (mode : Mode) : List Char → Option (Escape × List Char)
  | [] => none
  | c :: rest =>
    match c with
    | 'x' => codePoint? mode 2 rest
    | 'u' => codePoint? mode 4 rest
    | 'U' => codePoint? mode 8 rest
    | 'p' | 'P' =>
      match mode.skip rest with
      | category :: rest =>
        if mode.everyScript && categories.contains category.toLower then some (.choice, rest)
        else none
      | [] => none
    | 'd' | 's' | 'w' => some (.choice, rest)
    | 'D' | 'S' | 'W' => if mode.everyScript then some (.choice, rest) else none
    | 'a' => some (.character '\x07', rest)
    | 'f' => some (.character '\x0c', rest)
    | 't' => some (.character '\t', rest)
    | 'n' => some (.character '\n', rest)
    | 'r' => some (.character '\r', rest)
    | 'v' => some (.character '\x0b', rest)
    | 'A' | 'z' => some (.position, rest)
    | 'b' | 'B' | '<' | '>' => if mode.everyScript then none else some (.position, rest)
    | c => if c.toNat < 0x80 && !c.isAlphanum then some (.character c, rest) else none

/-- The depth of parts side by side: one part counts by itself. -/
def depthOf : List Nat → Nat
  | [] => 0
  | [depth] => depth
  | depths => depths.foldl max 0 + 1

/-! ### Sets -/

def classNames : List (List Char) :=
  ["alnum", "alpha", "ascii", "blank", "cntrl", "digit", "graph", "lower", "print", "punct",
    "space", "upper", "word", "xdigit"].map String.toList

/-- Reads a named class after its bracket: whether it is the complement, and the rest. -/
def namedClass? : List Char → Option (Bool × List Char)
  | ':' :: s =>
    let (complement, s) : Bool × List Char :=
      match s with
      | '^' :: rest => (true, rest)
      | s => (false, s)
    match s.dropWhile (· ≠ ':') with
    | ':' :: ']' :: rest =>
      if classNames.contains (s.takeWhile (· ≠ ':')) then some (complement, rest) else none
    | _ => none
  | _ => none

/-- One member of a set, and the rest. -/
def member? (mode : Mode) : List Char → Option (Escape × List Char)
  | [] => none
  | '\\' :: rest => escape? mode rest
  | c :: rest => some (.character c, rest)

/-- What follows a member of a set by itself. -/
def single? (mode : Mode) (rest : List Char) : Escape → Option (List Char)
  | .character c => if mode.admits c then some rest else none
  | .choice => some rest
  | .position => none

/-- What follows a member of a set, or two that are the ends of a range. -/
def afterRange? (mode : Mode) (s : List Char) : Option (List Char) := do
  let (first, rest) ← member? mode s
  match mode.skip rest with
  | '-' :: after =>
    if mode.afterDash? after = some ']' || mode.afterDash? after = some '-' then
      single? mode ('-' :: after) first
    else
      let (last, rest) ← member? mode (mode.skip after)
      match first, last with
      | .character a, .character b =>
        if mode.admits a && mode.admits b && a ≤ b then some rest else none
      | _, _ => none
  | rest => single? mode rest first

/-- The depth of a set from its members after the last operator, and that of what stands before. -/
def setDepth (before : Option Nat) (members : List Nat) : Nat :=
  match before with
  | none => depthOf members
  | some depth => max depth (depthOf members) + 1

mutual

/-- Reads a set after its opening bracket: its depth, and the rest. -/
def set? : Nat → Mode → List Char → Option (Nat × List Char)
  | 0, _, _ => none
  | fuel + 1, mode, s =>
    match mode.skip s with
    | '^' :: rest => if mode.everyScript then members? fuel mode true none [] rest else none
    | rest => members? fuel mode true none [] rest

/-- Reads the members of a set. While `first` holds, dashes stand for themselves, and so does a
closing bracket if nothing stands before it. -/
def members? : Nat → Mode → Bool → Option Nat → List Nat → List Char → Option (Nat × List Char)
  | 0, _, _, _, _, _ => none
  | fuel + 1, mode, first, before, members, s =>
    match mode.skip s with
    | [] => none
    | c :: rest =>
      if first && c = '-' then members? fuel mode true before (0 :: members) rest
      else if first && c = ']' && members.isEmpty then members? fuel mode false before [0] rest
      else if c = ']' then some (setDepth before members + 1, rest)
      else if c = '[' then
        match namedClass? rest with
        | some (complement, rest) =>
          if complement && !mode.everyScript then none
          else members? fuel mode false before (0 :: members) rest
        | none => do
          let (depth, rest) ← set? fuel mode rest
          members? fuel mode false before (depth :: members) rest
      else if (c = '&' || c = '-' || c = '~') && rest.head? = some c then
        members? fuel mode false (some (setDepth before members)) [] (rest.drop 1)
      else do
        let rest ← afterRange? mode (c :: rest)
        members? fuel mode false before (0 :: members) rest

end

/-! ### Groups -/

/-- What a parenthesis opens: new settings for the rest of the group, or a group. -/
inductive Opening where
  | settings (mode : Mode)
  | group (mode : Mode) (names : List (List Char))

def isGroupName : List Char → Bool
  | [] => false
  | c :: rest =>
    (c = '_' || Text.isAlphabetic c) &&
      rest.all fun c => c = '_' || c = '.' || c = '[' || c = ']' || Text.isAlphanumeric c

/-- Reads the name of a group, which no group before may have. -/
def namedGroup? (mode : Mode) (names : List (List Char)) (s : List Char) :
    Option (Opening × List Char) :=
  let name := s.takeWhile (· ≠ '>')
  match s.dropWhile (· ≠ '>') with
  | _ :: rest =>
    if isGroupName name && !names.contains name then some (.group mode (name :: names), rest)
    else none
  | [] => none

/-- The letters of the settings; those after a dash are switched off. -/
def settingLetters : List Char := "-imsUuRx".toList

/-- Reads settings, each of which may be named once; those `seen` stand before, the last first. -/
def settings? (seen : List Char) : List Char → Option (List Char × List Char)
  | [] => none
  | c :: rest =>
    if c = ':' || c = ')' then if seen.head? = some '-' then none else some (seen, c :: rest)
    else if settingLetters.contains c && !seen.contains c then settings? (c :: seen) rest
    else none

def Mode.change (mode : Mode) (settings : List Char) : Mode :=
  let off := if settings.contains '-' then settings.takeWhile (· ≠ '-') else []
  let setting (letter : Char) (value : Bool) : Bool :=
    if off.contains letter then false else settings.contains letter || value
  { verbose := setting 'x' mode.verbose, everyScript := setting 'u' mode.everyScript }

def opening? (mode : Mode) (names : List (List Char)) (s : List Char) :
    Option (Opening × List Char) :=
  match mode.skip s with
  | '?' :: '<' :: rest | '?' :: 'P' :: '<' :: rest => namedGroup? mode names rest
  | '?' :: rest =>
    match settings? [] rest with
    | some (settings, ':' :: rest) => some (.group (mode.change settings) names, rest)
    | some (settings, _ :: rest) =>
      if settings.isEmpty then none else some (.settings (mode.change settings), rest)
    | _ => none
  | rest => some (.group mode names, rest)

/-- A part of a branch: its depth, and whether it can be repeated. -/
structure Part where
  depth : Nat
  repeatable : Bool := true

/-- What has been read of a group: the parts of the present branch, the last first, and the depths
of the branches before. -/
structure Group where
  mode : Mode := {}
  names : List (List Char) := []
  parts : List Part := []
  branches : List Nat := []

namespace Group

def allBranches (group : Group) : List Nat := depthOf (group.parts.map Part.depth) :: group.branches

def depth (group : Group) : Nat := depthOf group.allBranches

def add (group : Group) (part : Part) : Group := { group with parts := part :: group.parts }

def repeated (group : Group) : Option Group :=
  match group.parts with
  | part :: parts =>
    if part.repeatable then some { group with parts := ⟨part.depth + 1, true⟩ :: parts } else none
  | [] => none

end Group

/-- What follows a repetition that matches as little as possible, or as much. -/
def afterLazy : List Char → List Char
  | '?' :: rest => rest
  | rest => rest

/-- What follows a character that stands for itself, an escape, a dot or a position. -/
def afterAtom? (mode : Mode) : List Char → Option (List Char)
  | [] => none
  | '\\' :: rest => (escape? mode rest).map (·.2)
  | '.' :: rest => if mode.everyScript then some rest else none
  | _ :: rest => some rest

/-- Reads on in a group; `inside` tells whether a parenthesis has to close it. -/
def group? : Nat → Bool → Group → List Char → Option (Group × List Char)
  | 0, _, _, _ => none
  | fuel + 1, inside, group, s =>
    match group.mode.skip s with
    | [] => if inside then none else some (group, [])
    | ')' :: rest => if inside then some (group, rest) else none
    | '|' :: rest =>
      group? fuel inside { group with parts := [], branches := group.allBranches } rest
    | '(' :: rest => do
      match ← opening? group.mode group.names rest with
      | (.settings mode, rest) =>
        group? fuel inside ({ group with mode }.add ⟨0, false⟩) rest
      | (.group mode names, rest) =>
        let (inner, rest) ← group? fuel true { mode, names } rest
        group? fuel inside ({ group with names := inner.names }.add ⟨inner.depth + 1, true⟩) rest
    | '[' :: rest => do
      let (depth, rest) ← set? (2 * rest.length + 2) group.mode rest
      group? fuel inside (group.add ⟨depth, true⟩) rest
    | '?' :: rest | '*' :: rest | '+' :: rest => do
      group? fuel inside (← group.repeated) (afterLazy rest)
    | '{' :: _ => none
    | rest => do
      group? fuel inside (group.add ⟨0, true⟩) (← afterAtom? group.mode rest)

/-- How deeply the parts of a pattern may be nested. -/
def maxDepth : Nat := 250

def isUsable (s : List Char) : Bool :=
  match group? (s.length + 1) false {} s with
  | some (group, _) => group.depth ≤ maxDepth
  | none => false

end Rail18.Pattern
