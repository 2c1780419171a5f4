import Rail18.Event
import Rail18.Game.Basic
import Rail18.Hex.Side
import Rail18.Tables

/-! # The terms of a game

Bank, certificate limit and starting cash are either one number for the whole game or a table by
number of players; both forms are kept. The other terms have defaults. -/

namespace Rail18

/-- One value for the whole game, or one for each number of players. -/
inductive PlayerValue where
  | scalar (value : Int64)
  | perPlayer (table : Dict UInt32 Int64)

/-- The terms that may depend on the number of players. -/
inductive Term where
  | bank
  | certLimit
  | capital
deriving DecidableEq, Repr

namespace Term

def field : Term → String
  | bank => "bank"
  | certLimit => "certLimit"
  | capital => "capital"

def ofGame (term : Term) (game : Game) : Option Amount :=
  match term with
  | bank => game.bank
  | certLimit => game.certLimit
  | capital => game.capital

/-- What is declared for a number of players. -/
def ofPlayer (term : Term) (player : Player) : Option Amount :=
  match term with
  | bank => player.bank
  | certLimit => player.certLimit
  | capital => player.capital

/-- What stands for an unlimited value; only the bank may be unlimited. -/
def unlimited (term : Term) (tables : Tables) : Option Int64 :=
  match term with
  | bank => some tables.unlimitedBank
  | certLimit | capital => none

/-- The path of the field for a number of players. -/
def playerField (term : Term) (player : Player) : String :=
  s!"players[{player.number.toNat}].{term.field}"

/-- The table by number of players. The last entry for a number counts. -/
def table (term : Term) (tables : Tables) :
    List Player → Dict UInt32 Int64 → Except Malformed (Dict UInt32 Int64)
  | [], settled => .ok settled
  | player :: rest, settled =>
    match term.ofPlayer player with
    | none => term.table tables rest settled
    | some amount => do
      let value ← amount.resolve (term.playerField player) (term.unlimited tables)
      term.table tables rest (settled.insert player.number value)

/-- The value of a term: that of the whole game, where it is declared, or the table. -/
def resolve (term : Term) (tables : Tables) (game : Game) : Except Malformed PlayerValue :=
  match term.ofGame game with
  | some amount => do
    return .scalar (← amount.resolve term.field (term.unlimited tables))
  | none => do
    return .perPlayer (← term.table tables game.players .empty)

/-- The numbers of players that declare nothing, up to the first amount that is no number. -/
def omitted (term : Term) (tables : Tables) : List Player → List Player
  | [] => []
  | player :: rest =>
    match term.ofPlayer player with
    | none => player :: term.omitted tables rest
    | some amount =>
      match amount.resolve (term.playerField player) (term.unlimited tables) with
      | .ok _ => term.omitted tables rest
      | .error _ => []

def events (term : Term) (tables : Tables) (game : Game) : List Event :=
  match term.ofGame game with
  | some _ => []
  | none => (term.omitted tables game.players).map fun player =>
    { level := .debug
      message := "player entry omits field"
      details := [("player", toString player.number.toNat), ("field", term.field)] }

end Term

/-- Replaces the first placeholder of a currency by the format of a number. -/
def currencyFormat : List Char → List Char
  | [] => []
  | '#' :: rest => '%' :: 'd' :: rest
  | c :: rest => c :: currencyFormat rest

namespace Game

def currency (game : Game) : String :=
  match game.info.bind (·.currency) with
  | some currency => .ofList (currencyFormat currency.toList)
  | none => "$%d"

def capitalization (game : Game) : String := (game.info.bind (·.capitalization)).getD "full"

def mustSellInBlocks (game : Game) : Bool := (game.info.bind (·.mustSellInBlocks)).getD false

/-- How the hexes stand: flat where the board is horizontal. -/
def layout (game : Game) : Layout :=
  if game.info.bind (·.orientation) = some "horizontal" then .flat else .pointy

/-- The mention of an orientation that is not known. -/
def layoutEvents (game : Game) : List Event :=
  match game.info.bind (·.orientation) with
  | none | some "horizontal" | some "vertical" => []
  | some other =>
    [{ level := .warn
       message := "unknown orientation, using pointy layout"
       details := [("orientation", other)] }]

end Game

end Rail18
