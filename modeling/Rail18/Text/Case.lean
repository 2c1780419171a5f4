import Rail18.Text.CaseTable

/-! # Lower and upper case

Case mapping of whole texts, for every script. A character may map to several; a capital sigma is
lowered by its place in the word. -/

namespace Rail18.Text

/-- The mapped form of one character: an expansion, else a shift, else the character itself. -/
def mapCase (expansions : List (Nat × List Nat)) (shifts : List Shift) (c : Char) : List Char :=
  match expansions.lookup c.toNat with
  | some codes => codes.map Char.ofNat
  | none =>
    match shifts.find? (·.covers c.toNat) with
    | some shift => [Char.ofNat (c.toNat + shift.delta).toNat]
    | none => [c]

/-- The lowercase form of a character by itself. -/
def lowerChar (c : Char) : List Char := mapCase lowerExpansions lowerShifts c

def upperChar (c : Char) : List Char := mapCase upperExpansions upperShifts c

def isCased (c : Char) : Bool := inRanges casedRanges c

/-- A character that is passed over when the case of a neighbour is looked for. -/
def isCaseIgnorable (c : Char) : Bool := inRanges caseIgnorableRanges c

/-- Whether the text begins with a cased character, ignorable ones passed over. -/
def beginsCased (s : List Char) : Bool :=
  match s.dropWhile isCaseIgnorable with
  | [] => false
  | c :: _ => isCased c

/-- Lowers a text that follows the characters `before`, nearest first. A capital sigma that ends a
word takes the final form. -/
def lowerAfter (before : List Char) : List Char → List Char
  | [] => []
  | c :: rest =>
    (if c = 'Σ' then [if beginsCased before && !beginsCased rest then 'ς' else 'σ']
      else lowerChar c) ++ lowerAfter (c :: before) rest

def lowerChars (s : List Char) : List Char := lowerAfter [] s

def lower (s : String) : String := .ofList (lowerChars s.toList)

def upper (s : String) : String := .ofList (s.toList.flatMap upperChar)

end Rail18.Text
