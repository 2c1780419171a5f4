import Rail18.Text.Blank
import Rail18.Text.Case

/-! # Entries of a library

A game that has been found, before it is read. -/

namespace Rail18

/-- A game in a library: its id is the stem of its file's name. -/
structure GameEntry where
  id : String
  title : Option String
  path : String
deriving DecidableEq

/-- A text to search for: without blanks at its ends and in lowercase. -/
def needle (query : String) : String := .ofList (Text.lowerChars (Text.trim query.toList))

def occursIn (part : List Char) : List Char → Bool
  | [] => part.isEmpty
  | c :: rest => part.isPrefixOf (c :: rest) || occursIn part rest

namespace GameEntry

/-- The id, and the title where it says more. -/
def display (entry : GameEntry) : String :=
  match entry.title with
  | some title => if title ≠ "" ∧ title ≠ entry.id then entry.id ++ " · " ++ title else entry.id
  | none => entry.id

/-- Whether the id or the title fits a test, both in lowercase. -/
def fits (test : String → Bool) (entry : GameEntry) : Bool :=
  test (Text.lower entry.id) || (entry.title.map fun title => test (Text.lower title)).getD false

def goesBy (name : String) (entry : GameEntry) : Bool := entry.fits (· = needle name)

/-- Whether a query occurs in the id or the title. -/
def mentions (query : String) (entry : GameEntry) : Bool :=
  entry.fits fun text => occursIn (needle query).toList text.toList

end GameEntry

end Rail18
