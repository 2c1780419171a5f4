import Rail18.Dict
import Rail18.Hex.Basic

/-! # Game definitions

A game as it is written down. Several fields may take more than one form; they are settled
when the game is compiled. -/

namespace Rail18

open Json (Value)

structure GameInfo where
  title : Option String := none
  currency : Option String := none
  orientation : Option String := none
  capitalization : Option String := none
  mustSellInBlocks : Option Bool := none

/-- What holds for one number of players. -/
structure Player where
  number : UInt32
  bank : Option Amount := none
  certLimit : Option Amount := none
  capital : Option Amount := none

/-- One map: its hexes, the variation whose hexes come before them, and the coordinates that are
struck from all of them. -/
structure Board where
  name : Option String := none
  hexes : Option (List Hex) := none
  copy : Option UInt64 := none
  removed : List String := []

/-- One map, or several to choose from. -/
inductive Boards where
  | variations (boards : List Board)
  | single (board : Board)

structure TileSpec where
  quantity : Option Count := none
  color : Option String := none
  code : Option String := none
  broken : Bool := false

/-- How many of a tile there are, with or without details. -/
inductive Quantity where
  | plain (count : Count)
  | detailed (spec : TileSpec)

inductive Template where
  | called (name : String)
  | entries (values : List Value)

structure Company where
  abbreviation : String
  name : Option String := none
  color : Option String := none
  logo : Option Value := none
  minor : Bool := false
  tokens : Option Template := none
  shares : Option Template := none
  floatPercent : Option UInt32 := none

structure Private where
  name : String
  price : Option Value := none
  revenue : Option Value := none
  description : Option String := none
  minPlayers : Option UInt32 := none

structure Train where
  name : String
  distance : Option Value := none
  price : Option Int64 := none
  rustsOn : Option Value := none
  quantity : Option Count := none
  availableOn : Option Value := none
  discount : Dict String Value := .empty

/-- A phase; `tiles` is the last color of tiles that it allows. -/
structure Phase where
  name : Option String := none
  train : Option String := none
  on : Option Value := none
  limit : Option Value := none
  tiles : Option String := none
  rounds : Option Value := none

inductive MarketCell where
  | number (value : Int64)
  | text (text : String)
  | detailed (value : Option Amount) (label : Option String) (par : Bool) (legend : Option UInt64)

/-- A stock market of one row or several; a cell may be missing. -/
inductive Market where
  | grid (rows : List (List (Option MarketCell)))
  | row (cells : List (Option MarketCell))

structure Game where
  info : Option GameInfo := none
  bank : Option Amount := none
  certLimit : Option Amount := none
  capital : Option Amount := none
  players : List Player := []
  boards : Option Boards := none
  tiles : Dict String Quantity := .empty
  companies : List Company := []
  privates : List Private := []
  trains : List Train := []
  phases : List Phase := []
  market : Option Market := none
  tokenTypes : Dict String (List Value) := .empty
  shareTypes : Dict String (List Value) := .empty
  floatPercent : Option UInt32 := none

end Rail18
