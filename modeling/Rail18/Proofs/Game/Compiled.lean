import Rail18.Game.Compiled
import Rail18.Proofs.Outcome

/-!
# What a compiled game is made of

A game compiles when everything in it that can fail succeeds, and each part of the compiled game is
then found by itself from the game and the hexes of the variation.
-/

namespace Rail18

theorem orMalformed_eq_ok {α : Type} {result : Except Malformed α} {value : α} :
    orMalformed result = .ok value ↔ result = .ok value := by
  cases result with
  | error cause =>
      constructor
      · intro h
        cases h
      · intro h
        cases h
  | ok item =>
      constructor
      · intro h
        rw [Except.ok.inj h]
      · intro h
        rw [Except.ok.inj h]
        rfl

/-- The parts of a compiled game. -/
structure Game.CompilesTo (tables : Tables) (catalog : Option Catalog) (game : Game) (variation : Nat)
    (hexes : List Hex) (compiled : CompiledGame) : Prop where
  title : game.title = .ok compiled.title
  resolved : game.resolveHexes variation = .ok hexes
  bank : Term.bank.resolve tables game = .ok compiled.bank
  certLimit : Term.certLimit.resolve tables game = .ok compiled.certLimit
  startingCash : Term.capital.resolve tables game = .ok compiled.startingCash
  tiles : game.tileSupply tables catalog = .ok compiled.tiles
  trains : game.compiledTrains tables = .ok compiled.trains
  filename : compiled.filename = Rail18.filename compiled.title
  moduleName : compiled.moduleName = Rail18.moduleName compiled.title
  variation : compiled.variation = game.shownVariation variation
  currency : compiled.currency = game.currency
  capitalization : compiled.capitalization = game.capitalization
  mustSellInBlocks : compiled.mustSellInBlocks = game.mustSellInBlocks
  layout : compiled.layout = game.layout
  locationNames : compiled.locationNames = Rail18.locationNames hexes
  market : compiled.market = game.marketRows
  privates : compiled.privates = game.compiledPrivates
  companies : compiled.companies = game.compiledCompanies hexes compiled.filename tables
  phases : compiled.phases = game.compiledPhases tables
  hexes : compiled.hexes = hexTable tables game.layout hexes

theorem Game.compile_eq_ok {tables : Tables} {catalog : Option Catalog} {game : Game} {variation : Nat}
    {compiled : CompiledGame} (h : game.compile tables catalog variation = .ok compiled) :
    ∃ hexes, game.CompilesTo tables catalog variation hexes compiled := by
  rw [Game.compile] at h
  obtain ⟨title, htitle, h⟩ := bind_eq_ok.mp h
  obtain ⟨hexes, hhexes, h⟩ := bind_eq_ok.mp h
  obtain ⟨bank, hbank, h⟩ := bind_eq_ok.mp h
  obtain ⟨certLimit, hcertLimit, h⟩ := bind_eq_ok.mp h
  obtain ⟨startingCash, hstartingCash, h⟩ := bind_eq_ok.mp h
  obtain ⟨tiles, htiles, h⟩ := bind_eq_ok.mp h
  obtain ⟨trains, htrains, h⟩ := bind_eq_ok.mp h
  obtain rfl := Except.ok.inj h
  exact ⟨hexes, orMalformed_eq_ok.mp htitle, hhexes, orMalformed_eq_ok.mp hbank,
    orMalformed_eq_ok.mp hcertLimit, orMalformed_eq_ok.mp hstartingCash, orMalformed_eq_ok.mp htiles,
    orMalformed_eq_ok.mp htrains, rfl, rfl, rfl, rfl, rfl, rfl, rfl, rfl, rfl, rfl, rfl, rfl, rfl⟩

end Rail18
