import Rail18.Text.QuotedTable

/-! # Quoted texts in log fields

A text between double quotes in which quotes, backslashes, the common control characters and all
characters without a picture of their own are spelled out. -/

namespace Rail18.Text

def spelledOut (c : Char) : List Char :=
  '\\' :: 'u' :: '{' :: Nat.toDigits 16 c.toNat ++ ['}']

def quotedChar (c : Char) : List Char :=
  if c = '\x00' then ['\\', '0']
  else if c = '\t' then ['\\', 't']
  else if c = '\r' then ['\\', 'r']
  else if c = '\n' then ['\\', 'n']
  else if c = '\\' ∨ c = '"' then ['\\', c]
  else if inRanges extendingRanges c || inRanges unprintableRanges c then spelledOut c
  else [c]

def quoted (s : String) : String :=
  .ofList ('"' :: s.toList.flatMap quotedChar ++ ['"'])

def quotedList (texts : List String) : String :=
  "[" ++ ", ".intercalate (texts.map quoted) ++ "]"

end Rail18.Text
