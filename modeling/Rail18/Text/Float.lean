/-! # Numbers with a fraction in text

The forms of a floating-point number: digits with an optional point among or around them and an
optional exponent, or one of the names of infinity and of what is not a number. A sign may stand in
front. -/

namespace Rail18.Text

/-- A text without the sign that it may begin with. -/
def afterSign : List Char → List Char
  | '+' :: rest | '-' :: rest => rest
  | s => s

def floatNames : List (List Char) := ["inf", "infinity", "nan"].map String.toList

/-- Whether a text is nothing or an exponent. -/
def isExponent : List Char → Bool
  | [] => true
  | c :: rest =>
    (c = 'e' || c = 'E') && !(afterSign rest).isEmpty && (afterSign rest).all Char.isDigit

/-- Whether a text without sign is a number written with digits. -/
def isDecimal (s : List Char) : Bool :=
  let whole := s.takeWhile Char.isDigit
  match s.dropWhile Char.isDigit with
  | '.' :: rest =>
    !(whole ++ rest.takeWhile Char.isDigit).isEmpty && isExponent (rest.dropWhile Char.isDigit)
  | rest => !whole.isEmpty && isExponent rest

def isFloat (s : List Char) : Bool :=
  floatNames.contains ((afterSign s).map Char.toLower) || isDecimal (afterSign s)

end Rail18.Text
