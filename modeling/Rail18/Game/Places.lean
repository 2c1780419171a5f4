import Rail18.Hex.Basic

/-! # Places

The names of places by coordinate, and where companies are at home. -/

namespace Rail18

structure LocationName where
  coord : String
  name : String
deriving DecidableEq

/-- The names of the stops of a hex, cities first, then center towns and towns, and of its
off-board area. -/
def Hex.placeNames (h : Hex) : List String :=
  (h.cities ++ h.allTowns).filterMap (·.name) ++ (h.offboard.bind (·.name)).toList

/-- The names of a hex at its first coordinate. -/
def Hex.locationName (h : Hex) : Option LocationName :=
  match h.coords, h.placeNames with
  | coord :: _, name :: names => some ⟨coord, " & ".intercalate (name :: names)⟩
  | _, _ => none

/-- The names of all hexes that have a coordinate and a name. -/
def locationNames (hexes : List Hex) : List LocationName := hexes.filterMap Hex.locationName

/-- Whether a city of the hex is home to a company. -/
def Hex.houses (abbreviation : String) (h : Hex) : Bool :=
  h.cities.any (·.companies.contains abbreviation)

/-- The first coordinate of the first hex that is home to a company. -/
def findHome (abbreviation : String) (hexes : List Hex) : Option String :=
  (hexes.find? (·.houses abbreviation)).bind (·.coords.head?)

end Rail18
