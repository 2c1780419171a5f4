import Rail18.Catalog
import Rail18.Game.Compiled
import Rail18.Json.Print

/-! # Writing compiled games and catalogs

Compiled games and catalogs as JSON. Most fields are written even when they hold nothing; the
optional marks of tiles, companies, trains and private companies are left out. -/

namespace Rail18

open Json (Value)

def textOrNull (text : Option String) : Value := .orNull (text.map .string)

/-- A value for the whole game, or an object by number of players. -/
def PlayerValue.toValue : PlayerValue → Value
  | scalar value => .integer value.toInt
  | perPlayer table =>
    .object (table.entries.map fun (number, value) =>
      (toString number.toNat, .integer value.toInt))

def LocationName.toValue (l : LocationName) : Value :=
  .object [("coord", .string l.coord), ("name", .string l.name)]

/-- The supply of a tile; color and code only where they are known. -/
def TileQuantity.toValue (t : TileQuantity) : Value := .object <|
  [("id", .string t.id), ("quantity", .natural t.quantity.toNat)] ++
  Value.optional "color" (t.color.map .string) ++
  Value.optional "code" (t.code.map .string)

/-- A row of the market; a missing cell is null. -/
def MarketRow.toValue (row : MarketRow) : Value := .object
  [("cells", .array (row.cells.map textOrNull)), ("hasEmpty", .bool row.hasEmpty)]

def CompiledPrivate.toValue (p : CompiledPrivate) : Value := .object <|
  [("name", .string p.name), ("value", p.value), ("revenue", p.revenue),
   ("description", .string p.description)] ++
  Value.optional "minPlayers" (p.minPlayers.map fun n => .natural n.toNat)

def labelled (label : Value) : Value := .object [("label", label)]

def CompiledCompany.toValue (c : CompiledCompany) : Value := .object <|
  Value.optional "floatPercent" (c.floatPercent.map fun n => .natural n.toNat) ++
  [("abbrev", .string c.abbreviation), ("name", textOrNull c.name)] ++
  Value.optional "logo" (c.logo.map .string) ++
  Value.optional "tokenType" (c.tokenType.map .string) ++
  [("tokens", .array (c.tokens.map labelled))] ++
  Value.optional "shareType" (c.shareType.map .string) ++
  [("shares", .array c.shares), ("home", textOrNull c.home), ("color", textOrNull c.color)]

def discountValue (entry : String × Value) : Value :=
  .object [("name", .string entry.1), ("discount", entry.2)]

def CompiledTrain.toValue (t : CompiledTrain) : Value := .object <|
  [("name", .string t.name), ("distance", t.distance), ("price", .integer t.price.toInt)] ++
  Value.optional "rustsOn" t.rustsOn ++
  [("num", .orNull (t.quantity.map fun n => .natural n.toNat))] ++
  Value.optional "availableOn" t.availableOn ++
  Value.listed "discount" (t.discounts.map discountValue)

/-- A phase; what it does not say is null. -/
def CompiledPhase.toValue (p : CompiledPhase) : Value := .object
  [("name", textOrNull p.name), ("on", .orNull p.on), ("limit", .orNull p.limit),
   ("tiles", .strings p.tiles), ("rounds", .orNull p.rounds)]

def encodedValue (entry : String × List String) : Value :=
  .object [("encoding", .string entry.1), ("hexes", .strings entry.2)]

def bucketValue (group : String × List (String × List String)) : Value :=
  .object [("color", .string group.1), ("hexes", .array (group.2.map encodedValue))]

def CompiledGame.toValue (g : CompiledGame) : Value := .object
  [("title", .string g.title), ("filename", .string g.filename),
   ("module", .string g.moduleName), ("variation", .natural g.variation),
   ("currency", .string g.currency), ("bank", g.bank.toValue),
   ("certLimit", g.certLimit.toValue), ("startingCash", g.startingCash.toValue),
   ("capitalization", .string g.capitalization),
   ("mustSellInBlocks", .bool g.mustSellInBlocks), ("layout", .string g.layout.name),
   ("locationNames", .array (g.locationNames.map LocationName.toValue)),
   ("tiles", .array (g.tiles.map TileQuantity.toValue)),
   ("market", .array (g.market.map MarketRow.toValue)),
   ("privates", .array (g.privates.map CompiledPrivate.toValue)),
   ("companies", .array (g.companies.map CompiledCompany.toValue)),
   ("trains", .array (g.trains.map CompiledTrain.toValue)),
   ("phases", .array (g.phases.map CompiledPhase.toValue)),
   ("hexes", .array (g.hexes.map bucketValue))]

def CatalogTile.toValue (t : CatalogTile) : Value := .object
  [("id", .string t.id), ("encoding", .string t.encoding), ("broken", .bool t.broken)]

def CatalogColor.toValue (c : CatalogColor) : Value := .object
  [("name", .string c.name), ("tiles", .array (c.tiles.map CatalogTile.toValue))]

def CompiledCatalog.toValue (c : CompiledCatalog) : Value := .object
  [("colors", .array (c.colors.map CatalogColor.toValue)), ("symbols", .string c.symbols)]

def CompiledGame.render (g : CompiledGame) : String := g.toValue.pretty

def CompiledCatalog.render (c : CompiledCatalog) : String := c.toValue.pretty

end Rail18
