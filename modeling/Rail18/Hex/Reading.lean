import Rail18.Hex.Basic

/-! # Reading hexes

How a hex and its parts are written in JSON: the names of the fields, their order, and what a
missing field means. -/

namespace Rail18

open Json (Fields Fault Reader Record)

/-- Reads a record with one field that has to be there. -/
def Json.Reader.sole {α : Type} (name : String) (read : Reader α) : Reader α :=
  let _ : Fields Unit :=
    { Entry := fun _ => α, order := [()], name := fun _ => name, read := fun _ => read }
  Reader.record fun record : Record Unit =>
    match record () with
    | some entry => .ok entry
    | none => .error .mismatch

inductive StopField where
  | size
  | groups
  | companies
  | name
deriving DecidableEq

instance : Fields StopField where
  Entry
    | .size => Option UInt32
    | .groups | .companies => List String
    | .name => Option String
  order := [.size, .groups, .companies, .name]
  name
    | .size => "size"
    | .groups => "groups"
    | .companies => "companies"
    | .name => "name"
  read
    | .size => .option .uint32
    | .groups => .list .text
    | .companies => .list .text
    | .name => .option (.sole "name" .text)

def Stop.read : Reader Stop := Reader.record fun record : Record StopField => .ok
  { size := (record .size).join
    groups := (record .groups).getD []
    companies := (record .companies).getD []
    name := (record .name).join }

inductive PhaseRevenueField where
  | color
  | value
  | revenue
  | cost
deriving DecidableEq

instance : Fields PhaseRevenueField where
  Entry
    | .color => Option String
    | .value | .revenue | .cost => Option Amount
  order := [.color, .value, .revenue, .cost]
  name
    | .color => "color"
    | .value => "value"
    | .revenue => "revenue"
    | .cost => "cost"
  read
    | .color => .option .text
    | .value => .option Amount.read
    | .revenue => .option Amount.read
    | .cost => .option Amount.read

/-- What an off-board area pays in one phase. -/
def PhaseRevenue.read : Reader PhaseRevenue :=
  Reader.record fun record : Record PhaseRevenueField => .ok
    { color := (record .color).join
      value := (record .value).join
      revenue := (record .revenue).join
      cost := (record .cost).join }

inductive OffboardField where
  | revenues
  | hidden
  | groups
  | name
deriving DecidableEq

instance : Fields OffboardField where
  Entry
    | .revenues => List PhaseRevenue
    | .hidden => Bool
    | .groups => List String
    | .name => Option String
  order := [.revenues, .hidden, .groups, .name]
  name
    | .revenues => "revenues"
    | .hidden => "hidden"
    | .groups => "groups"
    | .name => "name"
  read
    | .revenues => .list PhaseRevenue.read
    | .hidden => .bool
    | .groups => .list .text
    | .name => .option (.sole "name" .text)

def Offboard.read : Reader Offboard := Reader.record fun record : Record OffboardField => .ok
  { revenues := (record .revenues).getD []
    hidden := (record .hidden).getD false
    groups := (record .groups).getD []
    name := (record .name).join }

inductive TrackField where
  | kind
  | side
  | gauge
deriving DecidableEq

instance : Fields TrackField where
  Entry
    | .kind | .gauge => Option String
    | .side => Option Int64
  order := [.kind, .side, .gauge]
  name
    | .kind => "type"
    | .side => "side"
    | .gauge => "gauge"
  read
    | .kind => .option .text
    | .side => .option .int64
    | .gauge => .option .text

def Track.read : Reader Track := Reader.record fun record : Record TrackField => .ok
  { kind := (record .kind).join
    side := (record .side).join
    gauge := (record .gauge).join }

inductive TerrainField where
  | kind
  | cost
deriving DecidableEq

instance : Fields TerrainField where
  Entry
    | .kind => Option String
    | .cost => Option Amount
  order := [.kind, .cost]
  name
    | .kind => "type"
    | .cost => "cost"
  read
    | .kind => .option .text
    | .cost => .option Amount.read

def Terrain.read : Reader Terrain := Reader.record fun record : Record TerrainField => .ok
  { kind := (record .kind).join
    cost := (record .cost).join }

inductive HexField where
  | color
  | coords
  | encoding
  | cities
  | towns
  | centerTowns
  | offboard
  | track
  | terrain
  | labels
  | removedBorders
  | values
  | copy
  | broken
  | variation
deriving DecidableEq

instance : Fields HexField where
  Entry
    | .color | .encoding | .copy => Option String
    | .coords | .labels => List String
    | .cities | .towns | .centerTowns => List Stop
    | .offboard => Option Offboard
    | .track => List Track
    | .terrain => List Terrain
    | .removedBorders => List Int64
    | .values => List Amount
    | .broken => Bool
    | .variation => Option UInt64
  order := [.color, .coords, .encoding, .cities, .towns, .centerTowns, .offboard, .track, .terrain,
    .labels, .removedBorders, .values, .copy, .broken, .variation]
  name
    | .color => "color"
    | .coords => "hexes"
    | .encoding => "encoding"
    | .cities => "cities"
    | .towns => "towns"
    | .centerTowns => "centerTowns"
    | .offboard => "offBoardRevenue"
    | .track => "track"
    | .terrain => "terrain"
    | .labels => "labels"
    | .removedBorders => "removeBorders"
    | .values => "values"
    | .copy => "copy"
    | .broken => "broken"
    | .variation => "variation"
  read
    | .color => .option .text
    | .coords => .list .text
    | .encoding => .option .text
    | .cities => .list Stop.read
    | .towns => .list Stop.read
    | .centerTowns => .list Stop.read
    | .offboard => .option Offboard.read
    | .track => .list Track.read
    | .terrain => .list Terrain.read
    | .labels => .list (.sole "label" .text)
    | .removedBorders => .list .int64
    | .values => .list (.sole "value" Amount.read)
    | .copy => .option .text
    | .broken => .bool
    | .variation => .option .uint64

def Hex.read : Reader Hex := Reader.record fun record : Record HexField => .ok
  { color := (record .color).join
    coords := (record .coords).getD []
    encoding := (record .encoding).join
    cities := (record .cities).getD []
    towns := (record .towns).getD []
    centerTowns := (record .centerTowns).getD []
    offboard := (record .offboard).join
    track := (record .track).getD []
    terrain := (record .terrain).getD []
    labels := (record .labels).getD []
    removedBorders := (record .removedBorders).getD []
    values := (record .values).getD []
    copy := (record .copy).join
    broken := (record .broken).getD false
    variation := (record .variation).join }

end Rail18
