import Rail18.Grouping
import Rail18.Hex.Encoding
import Rail18.Palette

/-! # The hex table

The hexes of a board by bucket and then by encoding, each in the order of first appearance. Hexes
without coordinates are left out. -/

namespace Rail18

abbrev HexTable := List (String × List (String × List String))

def Hex.isPlaced (h : Hex) : Bool := !h.coords.isEmpty

def hexTable (tables : Tables) (layout : Layout) (hexes : List Hex) : HexTable :=
  groupBy (Hex.bucket tables) []
    (fun h => changeGroup (h.encode tables layout) [] (· ++ h.coords))
    (hexes.filter Hex.isPlaced)

/-- The text of a tag that may be missing. -/
def shownTag : Option UInt64 → String
  | some variation => s!"Some({variation.toNat})"
  | none => "None"

def hexTableEvents (tables : Tables) (hexes : List Hex) : List Event :=
  hexes.flatMap fun h =>
    if h.isPlaced then tables.colorEvents h.declaredColor
    else
      [{ level := .debug
         message := "skipping hex without coordinates"
         details := [("variation", shownTag h.variation)] }]

end Rail18
