import Rail18.Hex.Reading
import Rail18.Json.Writer

/-! # Writing hexes

A hex as JSON. Fields that hold nothing are left out, but for the coordinates of a hex and the
revenues of an off-board area. -/

namespace Rail18

open Json (Record Value Written someIfSet someUnlessEmpty)

def named (name : String) (value : Value) : Value := .object [(name, value)]

instance : Written StopField where
  write
    | .size => .option fun size => .natural size.toNat
    | .groups | .companies => .list .string
    | .name => .option fun name => named "name" (.string name)

def Stop.record (s : Stop) : Record StopField
  | .size => s.size.map some
  | .groups => someUnlessEmpty s.groups
  | .companies => someUnlessEmpty s.companies
  | .name => s.name.map some

def Stop.toValue (s : Stop) : Value := s.record.toValue

instance : Written PhaseRevenueField where
  write
    | .color => .option .string
    | .value | .revenue | .cost => .option Amount.toValue

def PhaseRevenue.record (r : PhaseRevenue) : Record PhaseRevenueField
  | .color => r.color.map some
  | .value => r.value.map some
  | .revenue => r.revenue.map some
  | .cost => r.cost.map some

/-- What an off-board area pays in one phase. -/
def PhaseRevenue.toValue (r : PhaseRevenue) : Value := r.record.toValue

instance : Written OffboardField where
  write
    | .revenues => .list PhaseRevenue.toValue
    | .hidden => .bool
    | .groups => .list .string
    | .name => .option fun name => named "name" (.string name)

def Offboard.record (o : Offboard) : Record OffboardField
  | .revenues => some o.revenues
  | .hidden => someIfSet o.hidden
  | .groups => someUnlessEmpty o.groups
  | .name => o.name.map some

def Offboard.toValue (o : Offboard) : Value := o.record.toValue

instance : Written TrackField where
  write
    | .kind | .gauge => .option .string
    | .side => .option fun side => .integer side.toInt

def Track.record (t : Track) : Record TrackField
  | .kind => t.kind.map some
  | .side => t.side.map some
  | .gauge => t.gauge.map some

def Track.toValue (t : Track) : Value := t.record.toValue

instance : Written TerrainField where
  write
    | .kind => .option .string
    | .cost => .option Amount.toValue

def Terrain.record (t : Terrain) : Record TerrainField
  | .kind => t.kind.map some
  | .cost => t.cost.map some

def Terrain.toValue (t : Terrain) : Value := t.record.toValue

instance : Written HexField where
  write
    | .color | .encoding | .copy => .option .string
    | .coords => .list .string
    | .cities | .towns | .centerTowns => .list Stop.toValue
    | .offboard => .option Offboard.toValue
    | .track => .list Track.toValue
    | .terrain => .list Terrain.toValue
    | .labels => .list fun label => named "label" (.string label)
    | .removedBorders => .list fun side => .integer side.toInt
    | .values => .list fun value => named "value" value.toValue
    | .broken => .bool
    | .variation => .option fun variation => .natural variation.toNat

def Hex.record (h : Hex) : Record HexField
  | .color => h.color.map some
  | .coords => some h.coords
  | .encoding => h.encoding.map some
  | .cities => someUnlessEmpty h.cities
  | .towns => someUnlessEmpty h.towns
  | .centerTowns => someUnlessEmpty h.centerTowns
  | .offboard => h.offboard.map some
  | .track => someUnlessEmpty h.track
  | .terrain => someUnlessEmpty h.terrain
  | .labels => someUnlessEmpty h.labels
  | .removedBorders => someUnlessEmpty h.removedBorders
  | .values => someUnlessEmpty h.values
  | .copy => h.copy.map some
  | .broken => someIfSet h.broken
  | .variation => h.variation.map some

def Hex.toValue (h : Hex) : Value := h.record.toValue

end Rail18
