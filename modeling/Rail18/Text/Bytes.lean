/-! # Texts by bytes

Parts of a text between offsets that count the bytes of its characters. An offset inside a character
leads nowhere. -/

namespace Rail18.Text

def byteCount : List Char → Nat
  | [] => 0
  | c :: rest => c.utf8Size + byteCount rest

def dropBytes? : Nat → List Char → Option (List Char)
  | 0, s => some s
  | _ + 1, [] => none
  | n + 1, c :: rest => if c.utf8Size ≤ n + 1 then dropBytes? (n + 1 - c.utf8Size) rest else none

/-- The first bytes of a text, as characters. -/
def takeBytes? : Nat → List Char → Option (List Char)
  | 0, _ => some []
  | _ + 1, [] => none
  | n + 1, c :: rest =>
    if c.utf8Size ≤ n + 1 then (takeBytes? (n + 1 - c.utf8Size) rest).map (c :: ·) else none

/-- The part of a text from one offset to another. -/
def slice? (s : List Char) (start stop : Nat) : Option (List Char) :=
  (dropBytes? start s).bind (takeBytes? (stop - start))

/-- The characters of a text with their offsets, the first of which is given. -/
def withOffsets : Nat → List Char → List (Nat × Char)
  | _, [] => []
  | offset, c :: rest => (offset, c) :: withOffsets (offset + c.utf8Size) rest

end Rail18.Text
