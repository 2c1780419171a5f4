/-! # Splitting texts

The parts of a text between the occurrences of a character. -/

namespace Rail18.Text

/-- Splits a text at a character; there is one part more than there are occurrences. -/
def splitAt (mark : Char) : List Char → List (List Char)
  | [] => [[]]
  | c :: rest =>
    match splitAt mark rest with
    | [] => [[c]]
    | part :: parts => if c = mark then [] :: part :: parts else (c :: part) :: parts

end Rail18.Text
