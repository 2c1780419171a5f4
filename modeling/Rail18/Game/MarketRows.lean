import Rail18.Event
import Rail18.Game.Basic

/-! # Market rows

The stock market as rows of cells to show. A cell shows its value or label with a mark for a par
value and one for its legend. -/

namespace Rail18

/-- A row of cells; a missing cell stays missing. -/
structure MarketRow where
  cells : List (Option String)

def MarketRow.hasEmpty (row : MarketRow) : Bool := row.cells.any (·.isNone)

def legendMarks : List String := ["y", "o", "b"]

namespace MarketCell

/-- What a cell shows. A legend without a mark shows nothing. -/
def shown : MarketCell → String
  | number value => toString value.toInt
  | text written => written
  | detailed value label par legend =>
    ((value.map Amount.shown).or label).getD "" ++ (if par then "p" else "") ++
      (legend.bind fun index => legendMarks[index.toNat]?).getD ""

/-- The mention of a legend without a mark. -/
def events : MarketCell → List Event
  | detailed _ _ _ (some legend) =>
    if legend.toNat < legendMarks.length then []
    else
      [{ level := .warn
         message := "market legend index out of range"
         details := [("legend", toString legend.toNat)] }]
  | _ => []

end MarketCell

/-- The rows of a market as declared. A grid without rows is one row without cells. -/
def Market.declaredRows : Market → List (List (Option MarketCell))
  | grid [] => [[]]
  | grid rows => rows
  | row cells => [cells]

namespace Game

/-- The rows of the declared market; none when there is no market. -/
def declaredRows (game : Game) : List (List (Option MarketCell)) :=
  (game.market.map Market.declaredRows).getD []

def marketRows (game : Game) : List MarketRow :=
  game.declaredRows.map fun cells => ⟨cells.map (·.map MarketCell.shown)⟩

def marketEvents (game : Game) : List Event :=
  game.declaredRows.flatMap fun cells => (cells.filterMap id).flatMap MarketCell.events

end Game

end Rail18
