import Rail18.Game.TileSupply
import Rail18.Grouping
import Rail18.Hex.Encoding
import Rail18.Hex.Reading
import Rail18.Palette

/-! # Tile catalogs

All tiles by bucket, each with its encoding. -/

namespace Rail18

open Json (Reader)

structure CatalogTile where
  id : String
  encoding : String
  broken : Bool
deriving DecidableEq

/-- The tiles of one bucket under the bucket's module name. -/
structure CatalogColor where
  name : String
  tiles : List CatalogTile
deriving DecidableEq

/-- A catalog ready to be drawn, with the symbols of its buckets. -/
structure CompiledCatalog where
  colors : List CatalogColor
  symbols : String
deriving DecidableEq

namespace Catalog

def read : Reader Catalog := .dict Hex.read

def compileTile (tables : Tables) (layout : Layout) (entry : String × Hex) : CatalogTile where
  id := entry.1
  encoding := entry.2.encode tables layout
  broken := entry.2.broken

def groups (tables : Tables) (layout : Layout) (catalog : Catalog) :
    List (String × List CatalogTile) :=
  groupBy (fun entry => entry.2.bucket tables) []
    (fun entry tiles => tiles ++ [compileTile tables layout entry]) catalog.entries

def compile (tables : Tables) (layout : Layout) (catalog : Catalog) : CompiledCatalog :=
  let groups := groups tables layout catalog
  { colors := groups.map fun (color, tiles) => ⟨colorModule color, tiles⟩
    symbols := " ".intercalate (groups.map fun (color, _) => colorSymbol color) }

def compileEvents (tables : Tables) (layout : Layout) (catalog : Catalog) : List Event :=
  catalog.values.flatMap (fun h => tables.colorEvents h.declaredColor) ++
    [{ level := .debug
       message := "compiled tile catalog"
       details :=
         [("tiles", toString catalog.size),
          ("colors", toString (catalog.groups tables layout).length)] }]

end Catalog

end Rail18
