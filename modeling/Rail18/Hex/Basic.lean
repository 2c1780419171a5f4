import Rail18.Amount

/-! # Hexes

A hex is one cell of a board or one tile of a catalog: where it lies, what is on it, and how the
track runs. -/

namespace Rail18

structure Stop where
  size : Option UInt32 := none
  groups : List String := []
  companies : List String := []
  name : Option String := none
deriving DecidableEq

/-- What an off-board area pays in one phase; the amount has three possible names. -/
structure PhaseRevenue where
  color : Option String := none
  value : Option Amount := none
  revenue : Option Amount := none
  cost : Option Amount := none
deriving DecidableEq

/-- The amount under the first of its names that is there. -/
def PhaseRevenue.amount (r : PhaseRevenue) : Amount :=
  ((r.value.or r.revenue).or r.cost).getD (.number 0)

structure Offboard where
  revenues : List PhaseRevenue := []
  hidden : Bool := false
  groups : List String := []
  name : Option String := none
deriving DecidableEq

/-- A piece of track from a side, with a curvature and a gauge. -/
structure Track where
  kind : Option String := none
  side : Option Int64 := none
  gauge : Option String := none
deriving DecidableEq

/-- A kind of terrain and what building on it costs. -/
structure Terrain where
  kind : Option String := none
  cost : Option Amount := none
deriving DecidableEq

/-- One cell of a board or one tile. `coords` are the cells that share it, `copy` is a coordinate
of the hex whose features it inherits, `variation` the map that it was taken from. -/
structure Hex where
  color : Option String := none
  coords : List String := []
  encoding : Option String := none
  cities : List Stop := []
  towns : List Stop := []
  centerTowns : List Stop := []
  offboard : Option Offboard := none
  track : List Track := []
  terrain : List Terrain := []
  labels : List String := []
  removedBorders : List Int64 := []
  values : List Amount := []
  copy : Option String := none
  broken : Bool := false
  variation : Option UInt64 := none
deriving DecidableEq

namespace Hex

/-- Towns in the order of their nodes: those in the center first. -/
def allTowns (h : Hex) : List Stop := h.centerTowns ++ h.towns

def hasStops (h : Hex) : Bool := !(h.cities.isEmpty && h.towns.isEmpty && h.centerTowns.isEmpty)

end Hex

end Rail18
