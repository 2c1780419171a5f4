import Rail18.Event
import Rail18.Game.Basic
import Rail18.Tables

/-! # Tile supply

How many of each tile a game has. Tiles that the game or the catalog flags as broken are left out,
but their quantity has to be sound all the same. -/

namespace Rail18

abbrev Catalog := Dict String Hex

/-- How many of a tile there are. -/
structure TileQuantity where
  id : String
  quantity : UInt32
  color : Option String := none
  code : Option String := none

namespace Quantity

def spec : Quantity → TileSpec
  | plain count => { quantity := some count }
  | detailed spec => spec

/-- How many there are; one where nothing is said. -/
def resolve (field : String) (tables : Tables) (quantity : Quantity) : Except Malformed UInt32 :=
  match quantity.spec.quantity with
  | some count => count.resolve field tables.unlimitedQuantity
  | none => .ok 1

end Quantity

/-- Whether the catalog flags a tile as broken. -/
def flaggedBroken (catalog : Option Catalog) (id : String) : Bool :=
  ((catalog.bind (·.get? id)).map (·.broken)).getD false

def tileField (id : String) : String := "tiles." ++ id

/-- The supply of one tile; none when it is broken. -/
def tileQuantity (tables : Tables) (catalog : Option Catalog) (id : String) (quantity : Quantity) :
    Except Malformed (Option TileQuantity) := do
  let number ← quantity.resolve (tileField id) tables
  let spec := quantity.spec
  if spec.broken || flaggedBroken catalog id then return none
  else return some { id, quantity := number, color := spec.color, code := spec.code }

def tileQuantities (tables : Tables) (catalog : Option Catalog) :
    List (String × Quantity) → Except Malformed (List TileQuantity)
  | [] => .ok []
  | (id, quantity) :: rest => do
    let first ← tileQuantity tables catalog id quantity
    return first.toList ++ (← tileQuantities tables catalog rest)

/-- The tiles that are left out, up to the first whose quantity is unsound. -/
def brokenTiles (tables : Tables) (catalog : Option Catalog) :
    List (String × Quantity) → List String
  | [] => []
  | (id, quantity) :: rest =>
    match tileQuantity tables catalog id quantity with
    | .error _ => []
    | .ok none => id :: brokenTiles tables catalog rest
    | .ok (some _) => brokenTiles tables catalog rest

namespace Game

def tileSupply (game : Game) (tables : Tables) (catalog : Option Catalog) :
    Except Malformed (List TileQuantity) :=
  tileQuantities tables catalog game.tiles.entries

def tileEvents (game : Game) (tables : Tables) (catalog : Option Catalog) : List Event :=
  (brokenTiles tables catalog game.tiles.entries).map fun id =>
    { level := .debug, message := "skipping broken tile", details := [("tile", id)] }

end Game

end Rail18
