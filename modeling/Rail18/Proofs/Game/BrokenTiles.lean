import Rail18.Proofs.Game.Compiled

/-!
# What a catalog leaves out

Compiling a game with a catalog is compiling it without one and then leaving out the tiles that the
catalog flags as broken. The quantity of a tile is settled before the tile is left out, so a catalog
neither causes a failure nor hides one.
-/

namespace Rail18

/-- Whether a catalog has a tile with the id and flags it as broken. -/
def Catalog.flags (catalog : Catalog) (id : String) : Bool := (catalog.get? id).any (·.broken)

/-- The tiles that a catalog does not flag. -/
def Catalog.sound (catalog : Catalog) (tiles : List TileQuantity) : List TileQuantity :=
  tiles.filter fun tile => !catalog.flags tile.id

theorem flaggedBroken_some (catalog : Catalog) (id : String) :
    flaggedBroken (some catalog) id = catalog.flags id := by
  unfold flaggedBroken Catalog.flags
  rw [Option.bind_some]
  cases catalog.get? id <;> rfl

theorem Catalog.sound_toList_append (catalog : Catalog) (first : Option TileQuantity)
    (tiles : List TileQuantity) :
    catalog.sound (first.toList ++ tiles) =
      (first.filter fun tile => !catalog.flags tile.id).toList ++ catalog.sound tiles := by
  cases first with
  | none => rfl
  | some tile =>
      by_cases hflagged : catalog.flags tile.id = true <;>
        simp [Catalog.sound, Option.filter, hflagged]

section Supply

variable (tables : Tables) (catalog : Catalog)

theorem tileQuantity_catalog (id : String) (quantity : Quantity) :
    tileQuantity tables (some catalog) id quantity =
      (tileQuantity tables none id quantity).map (·.filter fun tile => !catalog.flags tile.id) := by
  unfold tileQuantity
  cases quantity.resolve (tileField id) tables with
  | error cause => rfl
  | ok number =>
      simp only [flaggedBroken_some, bind, Except.bind]
      by_cases hbroken : quantity.spec.broken = true
      · simp [hbroken, Except.map, pure, Except.pure]
      · by_cases hflagged : catalog.flags id = true <;>
          simp [hbroken, hflagged, flaggedBroken, Option.filter, Except.map, pure, Except.pure]

theorem tileQuantities_catalog (entries : List (String × Quantity)) :
    tileQuantities tables (some catalog) entries =
      (tileQuantities tables none entries).map catalog.sound := by
  induction entries with
  | nil => rfl
  | cons entry rest ih =>
      obtain ⟨id, quantity⟩ := entry
      rw [tileQuantities, tileQuantities, tileQuantity_catalog, ih]
      cases tileQuantity tables none id quantity with
      | error cause => rfl
      | ok first =>
          cases tileQuantities tables none rest with
          | error cause => rfl
          | ok tiles => exact congrArg Except.ok (catalog.sound_toList_append first tiles).symm

end Supply

theorem ids_sublist_of_tileQuantities {tables : Tables} {catalog : Option Catalog}
    {entries : List (String × Quantity)} {tiles : List TileQuantity}
    (h : tileQuantities tables catalog entries = .ok tiles) :
    (tiles.map TileQuantity.id).Sublist (entries.map Prod.fst) := by
  induction entries generalizing tiles with
  | nil =>
      obtain rfl := Except.ok.inj h
      exact .slnil
  | cons entry rest ih =>
      obtain ⟨id, quantity⟩ := entry
      rw [tileQuantities] at h
      obtain ⟨first, hfirst, h⟩ := bind_eq_ok.mp h
      obtain ⟨others, hothers, h⟩ := bind_eq_ok.mp h
      obtain rfl := Except.ok.inj h
      have hrest := ih hothers
      -- The first tile is left out or keeps its id.
      rw [tileQuantity] at hfirst
      obtain ⟨number, -, hfirst⟩ := bind_eq_ok.mp hfirst
      dsimp only at hfirst
      split at hfirst
      · obtain rfl := Except.ok.inj hfirst
        exact hrest.cons id
      · obtain rfl := Except.ok.inj hfirst
        exact hrest.cons_cons id

/-- With a catalog a game compiles to what it compiles to without one, but for the tiles that the catalog
flags as broken: they are left out, and the others stay as they are, by ascending id. The failures are
the same. -/
theorem Game.compile_catalog (tables : Tables) (catalog : Catalog) (game : Game) (variation : Nat) :
    game.compile tables (some catalog) variation =
        (game.compile tables none variation).map (fun compiled =>
          { compiled with tiles := compiled.tiles.filter fun tile => !catalog.flags tile.id }) ∧
      ∀ compiled, game.compile tables none variation = .ok compiled →
        (compiled.tiles.map TileQuantity.id).Pairwise fun first second => compare first second = .lt := by
  constructor
  · have htiles : game.tileSupply tables (some catalog) = (game.tileSupply tables none).map catalog.sound :=
      tileQuantities_catalog tables catalog game.tiles.entries
    unfold Game.compile
    rw [htiles]
    -- No other step knows of the catalog: where one fails, both sides fail with it.
    cases game.title with
    | error cause => rfl
    | ok title =>
    cases game.resolveHexes variation with
    | error error => rfl
    | ok hexes =>
    cases Term.bank.resolve tables game with
    | error cause => rfl
    | ok bank =>
    cases Term.certLimit.resolve tables game with
    | error cause => rfl
    | ok certLimit =>
    cases Term.capital.resolve tables game with
    | error cause => rfl
    | ok startingCash =>
    cases game.tileSupply tables none with
    | error cause => rfl
    | ok tiles =>
    cases game.compiledTrains tables with
    | error cause => rfl
    | ok trains => rfl
  · intro compiled hcompiled
    obtain ⟨hexes, hparts⟩ := Game.compile_eq_ok hcompiled
    have hentries : (game.tiles.entries.map Prod.fst).Pairwise fun first second =>
        compare first second = .lt := List.pairwise_map.mpr game.tiles.ascending
    exact hentries.sublist (ids_sublist_of_tileQuantities hparts.tiles)

/-- A game with two tiles, of which a catalog flags the first. -/
def twoTiles : Game where
  info := some { title := some "18Two" }
  tiles := .ofList [("8", .plain (.number 3)), ("9", .plain (.text "∞"))]

def brokenEight : Catalog := .ofList [("8", { broken := true }), ("9", {})]

theorem Game.compile_catalog_brokenEight :
    ∃ compiled, twoTiles.compile .standard none 0 = .ok compiled ∧
      compiled.tiles.map TileQuantity.id = ["8", "9"] ∧
      (compiled.tiles.map TileQuantity.id).Pairwise (fun first second => compare first second = .lt) ∧
      twoTiles.compile .standard (some brokenEight) 0 =
        .ok { compiled with tiles := [{ id := "9", quantity := 20 }] } := by
  obtain ⟨hfiltered, hascending⟩ := Game.compile_catalog .standard brokenEight twoTiles 0
  have hcompiled : ∃ compiled, twoTiles.compile .standard none 0 = .ok compiled ∧
      compiled.tiles = [{ id := "8", quantity := 3 }, { id := "9", quantity := 20 }] := ⟨_, rfl, rfl⟩
  obtain ⟨compiled, hcompiled, htiles⟩ := hcompiled
  refine ⟨compiled, hcompiled, by rw [htiles]; rfl, hascending compiled hcompiled, ?_⟩
  rw [hfiltered, hcompiled, Except.map, htiles]
  rfl

end Rail18
