import Rail18.Game.Board
import Rail18.Game.HexTable
import Rail18.Game.MarketRows
import Rail18.Game.Roster
import Rail18.Game.Terms
import Rail18.Game.Title

/-! # Compiled games

A game with all its forms settled: names derived, defaults filled in, copies followed, and its
hexes encoded. -/

namespace Rail18

structure CompiledGame where
  title : String
  filename : String
  moduleName : String
  variation : Nat
  currency : String
  bank : PlayerValue
  certLimit : PlayerValue
  startingCash : PlayerValue
  capitalization : String
  mustSellInBlocks : Bool
  layout : Layout
  locationNames : List LocationName
  tiles : List TileQuantity
  market : List MarketRow
  privates : List CompiledPrivate
  companies : List CompiledCompany
  trains : List CompiledTrain
  phases : List CompiledPhase
  hexes : HexTable

namespace Game

/-- The variation that is shown for a requested one: a single map has no others. -/
def shownVariation (game : Game) (variation : Nat) : Nat :=
  match game.boards with
  | some (.variations _) => variation
  | _ => 0

/-- Compiles a variation of a game. The catalog tells which tiles are broken. -/
def compile (tables : Tables) (catalog : Option Catalog) (game : Game) (variation : Nat) :
    Except CompileError CompiledGame := do
  let title ← orMalformed game.title
  let hexes ← game.resolveHexes variation
  let bank ← orMalformed (Term.bank.resolve tables game)
  let certLimit ← orMalformed (Term.certLimit.resolve tables game)
  let startingCash ← orMalformed (Term.capital.resolve tables game)
  let tiles ← orMalformed (game.tileSupply tables catalog)
  let trains ← orMalformed (game.compiledTrains tables)
  return {
    title
    filename := filename title
    moduleName := moduleName title
    variation := game.shownVariation variation
    currency := game.currency
    bank
    certLimit
    startingCash
    capitalization := game.capitalization
    mustSellInBlocks := game.mustSellInBlocks
    layout := game.layout
    locationNames := locationNames hexes
    tiles
    market := game.marketRows
    privates := game.compiledPrivates
    companies := game.compiledCompanies hexes (filename title) tables
    trains
    phases := game.compiledPhases tables
    hexes := hexTable tables game.layout hexes }

/-- The mention of a game that has been compiled. -/
def compiledEvent (game : Game) (variation : Nat) (title : String) (hexes : List Hex) : Event where
  level := .info
  message := "compiled game"
  details :=
    [("game", title), ("variation", toString (game.shownVariation variation)),
     ("hexes", toString hexes.length), ("companies", toString game.companies.length)]

/-- The events of steps that follow one another, up to the first that fails. -/
def eventsUntilFailure : List (List Event × Bool) → List Event
  | [] => []
  | (events, succeeds) :: rest => events ++ if succeeds then eventsUntilFailure rest else []

def compileEvents (tables : Tables) (catalog : Option Catalog) (game : Game) (variation : Nat) :
    List Event :=
  match game.title with
  | .error _ => []
  | .ok title =>
    let resolved := game.resolveHexes variation
    let hexes := resolved.toOption.getD []
    let term (term : Term) := (term.events tables game, (term.resolve tables game).isOk)
    eventsUntilFailure
      [(game.layoutEvents, true),
       (game.resolveEvents variation, resolved.isOk),
       term .bank, term .certLimit, term .capital,
       (game.tileEvents tables catalog, (game.tileSupply tables catalog).isOk),
       (game.marketEvents ++ game.companyEvents tables, (game.compiledTrains tables).isOk),
       (hexTableEvents tables hexes ++ [game.compiledEvent variation title hexes], true)]

end Game

end Rail18
