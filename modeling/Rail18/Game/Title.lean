import Rail18.Game.Basic
import Rail18.Text.Blank
import Rail18.Text.Case

/-! # Titles

The title of a game and the names derived from it: the stem of its files and the name of its
module. -/

namespace Rail18

def isStemChar (c : Char) : Bool := ('a' ≤ c && c ≤ 'z') || ('0' ≤ c && c ≤ '9')

/-- Replaces every run of other characters by one underscore. -/
def underscored (inRun : Bool) : List Char → List Char
  | [] => []
  | c :: rest =>
    if isStemChar c then c :: underscored false rest
    else if inRun then underscored true rest
    else '_' :: underscored true rest

/-- A text without the underscores at its two ends. -/
def trimUnderscores (s : List Char) : List Char :=
  ((s.dropWhile (· = '_')).reverse.dropWhile (· = '_')).reverse

/-- The digits that a title begins with, and the rest. A title of several lines is not split. -/
def splitTitle (title : List Char) : List Char × List Char :=
  if title.contains '\n' then ([], title)
  else (title.takeWhile Char.isDigit, title.dropWhile Char.isDigit)

/-- The words of a text as they stand in a file stem. -/
def stemWords (s : List Char) : List Char := trimUnderscores (underscored false (Text.lowerChars s))

/-- The digits and words of a title, joined by an underscore where there are both. -/
def joinStem (digits words : List Char) : List Char :=
  if words.isEmpty then digits
  else if digits.isEmpty then words
  else digits ++ '_' :: words

def fileStem (title : List Char) : List Char :=
  let (digits, words) := splitTitle (Text.trim title)
  joinStem digits (stemWords words)

def filename (title : String) : String := .ofList (fileStem title.toList)

/-- The module name of a title: its ASCII letters and digits after a `G`. -/
def moduleName (title : String) : String :=
  .ofList ('G' :: title.toList.filter Char.isAlphanum)

/-- The title of a game, which has to be there and not blank. -/
def Game.title (game : Game) : Except Malformed String :=
  match game.info.bind (·.title) with
  | some title => if (Text.trim title.toList).isEmpty then .error .noTitle else .ok title
  | none => .error .noTitle

end Rail18
