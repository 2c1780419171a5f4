import Rail18.Game.Basic
import Rail18.Hex.Reading

/-! # Reading games

How a game and its parts are written in JSON. -/

namespace Rail18

open Json (Fields Fault Reader Record Value)

inductive InfoField where
  | title
  | currency
  | orientation
  | capitalization
  | mustSellInBlocks
deriving DecidableEq

instance : Fields InfoField where
  Entry
    | .title | .currency | .orientation | .capitalization => Option String
    | .mustSellInBlocks => Option Bool
  order := [.title, .currency, .orientation, .capitalization, .mustSellInBlocks]
  name
    | .title => "title"
    | .currency => "currency"
    | .orientation => "orientation"
    | .capitalization => "capitalization"
    | .mustSellInBlocks => "mustSellInBlocks"
  read
    | .title => .option .text
    | .currency => .option .text
    | .orientation => .option .text
    | .capitalization => .option .text
    | .mustSellInBlocks => .option .bool

def GameInfo.read : Reader GameInfo := Reader.record fun record : Record InfoField => .ok
    { title := (record .title).join
      currency := (record .currency).join
      orientation := (record .orientation).join
      capitalization := (record .capitalization).join
      mustSellInBlocks := (record .mustSellInBlocks).join }

inductive PlayerField where
  | number
  | bank
  | certLimit
  | capital
deriving DecidableEq

instance : Fields PlayerField where
  Entry
    | .number => UInt32
    | .bank | .certLimit | .capital => Option Amount
  order := [.number, .bank, .certLimit, .capital]
  name
    | .number => "number"
    | .bank => "bank"
    | .certLimit => "certLimit"
    | .capital => "capital"
  read
    | .number => .uint32
    | .bank => .option Amount.read
    | .certLimit => .option Amount.read
    | .capital => .option Amount.read

def Player.read : Reader Player := Reader.record fun record : Record PlayerField =>
  match record .number with
  | none => .error .mismatch
  | some number => .ok
      { number
        bank := (record .bank).join
        certLimit := (record .certLimit).join
        capital := (record .capital).join }

inductive BoardField where
  | name
  | hexes
  | copy
  | removed
deriving DecidableEq

instance : Fields BoardField where
  Entry
    | .name => Option String
    | .hexes => Option (List Hex)
    | .copy => Option UInt64
    | .removed => List String
  order := [.name, .hexes, .copy, .removed]
  name
    | .name => "name"
    | .hexes => "hexes"
    | .copy => "copy"
    | .removed => "remove"
  read
    | .name => .option .text
    | .hexes => .option (.list Hex.read)
    | .copy => .option .uint64
    | .removed => .list .text

def Board.read : Reader Board := Reader.record fun record : Record BoardField => .ok
    { name := (record .name).join
      hexes := (record .hexes).join
      copy := (record .copy).join
      removed := (record .removed).getD [] }

def Boards.read : Reader Boards :=
  .oneOf [.map variations (.list Board.read), .map single Board.read]

inductive TileSpecField where
  | quantity
  | color
  | code
  | broken
deriving DecidableEq

instance : Fields TileSpecField where
  Entry
    | .quantity => Option Count
    | .color | .code => Option String
    | .broken => Bool
  order := [.quantity, .color, .code, .broken]
  name
    | .quantity => "quantity"
    | .color => "color"
    | .code => "code"
    | .broken => "broken"
  read
    | .quantity => .option Count.read
    | .color => .option .text
    | .code => .option .text
    | .broken => .bool

def TileSpec.read : Reader TileSpec := Reader.record fun record : Record TileSpecField => .ok
    { quantity := (record .quantity).join
      color := (record .color).join
      code := (record .code).join
      broken := (record .broken).getD false }

def Quantity.read : Reader Quantity := .oneOf [.map plain Count.read, .map detailed TileSpec.read]

def Template.read : Reader Template := .oneOf [.map called .text, .map entries (.list .value)]

inductive CompanyField where
  | abbreviation
  | name
  | color
  | logo
  | minor
  | tokens
  | shares
  | floatPercent
deriving DecidableEq

instance : Fields CompanyField where
  Entry
    | .abbreviation => String
    | .name | .color => Option String
    | .logo => Option Value
    | .minor => Bool
    | .tokens | .shares => Option Template
    | .floatPercent => Option UInt32
  order := [.abbreviation, .name, .color, .logo, .minor, .tokens, .shares, .floatPercent]
  name
    | .abbreviation => "abbrev"
    | .name => "name"
    | .color => "color"
    | .logo => "logo"
    | .minor => "minor"
    | .tokens => "tokens"
    | .shares => "shares"
    | .floatPercent => "floatPercent"
  read
    | .abbreviation => .text
    | .name => .option .text
    | .color => .option .text
    | .logo => .option .value
    | .minor => .bool
    | .tokens => .option Template.read
    | .shares => .option Template.read
    | .floatPercent => .option .uint32

def Company.read : Reader Company := Reader.record fun record : Record CompanyField =>
  match record .abbreviation with
  | none => .error .mismatch
  | some abbreviation => .ok
      { abbreviation
        name := (record .name).join
        color := (record .color).join
        logo := (record .logo).join
        minor := (record .minor).getD false
        tokens := (record .tokens).join
        shares := (record .shares).join
        floatPercent := (record .floatPercent).join }

inductive PrivateField where
  | name
  | price
  | revenue
  | description
  | minPlayers
deriving DecidableEq

instance : Fields PrivateField where
  Entry
    | .name => String
    | .price | .revenue => Option Value
    | .description => Option String
    | .minPlayers => Option UInt32
  order := [.name, .price, .revenue, .description, .minPlayers]
  name
    | .name => "name"
    | .price => "price"
    | .revenue => "revenue"
    | .description => "description"
    | .minPlayers => "minPlayers"
  read
    | .name => .text
    | .price => .option .value
    | .revenue => .option .value
    | .description => .option .text
    | .minPlayers => .option .uint32

def Private.read : Reader Private := Reader.record fun record : Record PrivateField =>
  match record .name with
  | none => .error .mismatch
  | some name => .ok
      { name
        price := (record .price).join
        revenue := (record .revenue).join
        description := (record .description).join
        minPlayers := (record .minPlayers).join }

inductive TrainField where
  | name
  | distance
  | price
  | rustsOn
  | quantity
  | availableOn
  | discount
deriving DecidableEq

instance : Fields TrainField where
  Entry
    | .name => String
    | .distance | .rustsOn | .availableOn => Option Value
    | .price => Option Int64
    | .quantity => Option Count
    | .discount => Dict String Value
  order := [.name, .distance, .price, .rustsOn, .quantity, .availableOn, .discount]
  name
    | .name => "name"
    | .distance => "distance"
    | .price => "price"
    | .rustsOn => "rustsOn"
    | .quantity => "quantity"
    | .availableOn => "availableOn"
    | .discount => "discount"
  read
    | .name => .text
    | .distance => .option .value
    | .price => .option .int64
    | .rustsOn => .option .value
    | .quantity => .option Count.read
    | .availableOn => .option .value
    | .discount => .dict .value

def Train.read : Reader Train := Reader.record fun record : Record TrainField =>
  match record .name with
  | none => .error .mismatch
  | some name => .ok
      { name
        distance := (record .distance).join
        price := (record .price).join
        rustsOn := (record .rustsOn).join
        quantity := (record .quantity).join
        availableOn := (record .availableOn).join
        discount := (record .discount).getD .empty }

inductive PhaseField where
  | name
  | train
  | on
  | limit
  | tiles
  | rounds
deriving DecidableEq

instance : Fields PhaseField where
  Entry
    | .name | .train | .tiles => Option String
    | .on | .limit | .rounds => Option Value
  order := [.name, .train, .on, .limit, .tiles, .rounds]
  name
    | .name => "name"
    | .train => "train"
    | .on => "on"
    | .limit => "limit"
    | .tiles => "tiles"
    | .rounds => "rounds"
  read
    | .name => .option .text
    | .train => .option .text
    | .on => .option .value
    | .limit => .option .value
    | .tiles => .option .text
    | .rounds => .option .value

def Phase.read : Reader Phase := Reader.record fun record : Record PhaseField => .ok
    { name := (record .name).join
      train := (record .train).join
      on := (record .on).join
      limit := (record .limit).join
      tiles := (record .tiles).join
      rounds := (record .rounds).join }

inductive CellField where
  | value
  | label
  | par
  | legend
deriving DecidableEq

instance : Fields CellField where
  Entry
    | .value => Option Amount
    | .label => Option String
    | .par => Bool
    | .legend => Option UInt64
  order := [.value, .label, .par, .legend]
  name
    | .value => "value"
    | .label => "label"
    | .par => "par"
    | .legend => "legend"
  read
    | .value => .option Amount.read
    | .label => .option .text
    | .par => .bool
    | .legend => .option .uint64

/-- A cell of the stock market with its details. -/
def MarketCell.readDetailed : Reader MarketCell := Reader.object fun record : Record CellField =>
  .ok (.detailed (record .value).join (record .label).join ((record .par).getD false)
    (record .legend).join)

/-- A cell of the stock market. The details are written as an object only. -/
def MarketCell.read : Reader MarketCell :=
  .oneOf [.map number .int64, .map text .text, readDetailed]

/-- A stock market. An empty list counts as a grid. -/
def Market.read : Reader Market :=
  .oneOf
    [.map grid (.list (.list (.option MarketCell.read))),
     .map row (.list (.option MarketCell.read))]

inductive StockField where
  | market
deriving DecidableEq

instance : Fields StockField where
  Entry
    | .market => Option Market
  order := [.market]
  name
    | .market => "market"
  read
    | .market => .option Market.read

/-- The stock, of which only the market is kept. -/
def Market.readStock : Reader (Option Market) := Reader.record fun record : Record StockField =>
  .ok (record .market).join

inductive GameField where
  | info
  | bank
  | certLimit
  | capital
  | players
  | boards
  | tiles
  | companies
  | privates
  | trains
  | phases
  | stock
  | tokenTypes
  | shareTypes
  | floatPercent
deriving DecidableEq

instance : Fields GameField where
  Entry
    | .info => Option GameInfo
    | .bank | .certLimit | .capital => Option Amount
    | .players => List Player
    | .boards => Option Boards
    | .tiles => Dict String Quantity
    | .companies => List Company
    | .privates => List Private
    | .trains => List Train
    | .phases => List Phase
    | .stock => Option (Option Market)
    | .tokenTypes | .shareTypes => Dict String (List Value)
    | .floatPercent => Option UInt32
  order := [.info, .bank, .certLimit, .capital, .players, .boards, .tiles, .companies, .privates,
    .trains, .phases, .stock, .tokenTypes, .shareTypes, .floatPercent]
  name
    | .info => "info"
    | .bank => "bank"
    | .certLimit => "certLimit"
    | .capital => "capital"
    | .players => "players"
    | .boards => "map"
    | .tiles => "tiles"
    | .companies => "companies"
    | .privates => "privates"
    | .trains => "trains"
    | .phases => "phases"
    | .stock => "stock"
    | .tokenTypes => "tokenTypes"
    | .shareTypes => "shareTypes"
    | .floatPercent => "floatPercent"
  read
    | .info => .option GameInfo.read
    | .bank => .option Amount.read
    | .certLimit => .option Amount.read
    | .capital => .option Amount.read
    | .players => .list Player.read
    | .boards => .option Boards.read
    | .tiles => .dict Quantity.read
    | .companies => .list Company.read
    | .privates => .list Private.read
    | .trains => .list Train.read
    | .phases => .list Phase.read
    | .stock => .option Market.readStock
    | .tokenTypes => .dict (.list .value)
    | .shareTypes => .dict (.list .value)
    | .floatPercent => .option .uint32

def Game.read : Reader Game := Reader.record fun record : Record GameField => .ok
    { info := (record .info).join
      bank := (record .bank).join
      certLimit := (record .certLimit).join
      capital := (record .capital).join
      players := (record .players).getD []
      boards := (record .boards).join
      tiles := (record .tiles).getD .empty
      companies := (record .companies).getD []
      privates := (record .privates).getD []
      trains := (record .trains).getD []
      phases := (record .phases).getD []
      market := (record .stock).join.join
      tokenTypes := (record .tokenTypes).getD .empty
      shareTypes := (record .shareTypes).getD .empty
      floatPercent := (record .floatPercent).join }

end Rail18
