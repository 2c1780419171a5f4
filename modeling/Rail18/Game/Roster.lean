import Rail18.CompileError
import Rail18.Event
import Rail18.Game.Places
import Rail18.Game.TileSupply
import Rail18.Text.Blank
import Rail18.Text.Digit

/-! # The roster

The companies, private companies, trains and phases of a game with their defaults filled in. -/

namespace Rail18

open Json (Value)

structure CompiledPrivate where
  name : String
  value : Value
  revenue : Value
  description : String
  minPlayers : Option UInt32

/-- What a private company pays: the first of several revenues, or nothing. -/
def Private.payout (p : Private) : Value :=
  match p.revenue with
  | some (.array values) => values.head?.getD (.integer 0)
  | some .null | none => .integer 0
  | some value => value

def Private.compile (p : Private) : CompiledPrivate where
  name := p.name
  value := .orNull p.price
  revenue := p.payout
  description := p.description.getD ""
  minPlayers := p.minPlayers

structure CompiledCompany where
  floatPercent : Option UInt32
  abbreviation : String
  name : Option String
  logo : Option String
  tokenType : Option String
  tokens : List Value
  shareType : Option String
  shares : List Value
  home : Option String
  color : Option String

/-- The list that a company uses and its name, if it has one. Without a list of its own a minor
company uses the list for minors, if there is one, and any company the default list. A list that is
not known is empty but keeps its name. -/
def resolveTemplate (own : Option Template) (minor : Bool) (templates : Dict String (List Value)) :
    Option String × List Value :=
  match own with
  | some (.entries values) => (none, values)
  | some (.called name) => (some name, (templates.get? name).getD [])
  | none =>
    match (if minor then templates.get? "minor" else none), templates.get? "default" with
    | some values, _ => (some "minor", values)
    | none, some values => (some "default", values)
    | none, none => (none, [])

/-- The mention of a list that is not known. -/
def templateEvents (kind : String) (own : Option Template)
    (templates : Dict String (List Value)) : List Event :=
  match own with
  | some (.called name) =>
    if templates.contains name then []
    else
      [{ level := .debug
         message := (CompileError.unknown kind name).message ++ "; passing through" }]
  | _ => []

/-- The label of a token: its cost, or zero when it is no number. -/
def tokenLabel (token : Value) : Value := if token.isNumber then token else .integer 0

/-- The color under which a company's swatch is looked up: white is drawn as gray. -/
def swatchKey (color : String) : String := if color = "white" then "gray" else color

/-- The swatch of a company's color, or the color itself. -/
def Tables.swatch (tables : Tables) (color : String) : String :=
  (tables.companyColors.get? (swatchKey color)).getD color

/-- The mention of a company color without a swatch. -/
def Tables.swatchEvents (tables : Tables) (color : String) : List Event :=
  if tables.companyColors.contains (swatchKey color) then []
  else
    [{ level := .debug
       message := "unknown company color, passing through"
       details := [("color", color)] }]

namespace Company

def hasLogo (company : Company) : Bool :=
  match company.logo with
  | none | some .null | some (.bool false) => false
  | some (.string path) => path ≠ ""
  | some _ => true

/-- Where the logo lies: in the game's folder, under the abbreviation without blanks and `&`. -/
def logoPath (filename : String) (company : Company) : String :=
  filename ++ "/" ++ .ofList (company.abbreviation.toList.filter fun c => c ≠ '&' ∧ c ≠ ' ')

def compile (game : Game) (hexes : List Hex) (filename : String) (tables : Tables)
    (company : Company) : CompiledCompany :=
  let (tokenType, tokens) := resolveTemplate company.tokens company.minor game.tokenTypes
  let (shareType, shares) := resolveTemplate company.shares company.minor game.shareTypes
  { floatPercent := company.floatPercent.or game.floatPercent
    abbreviation := company.abbreviation
    name := company.name
    logo := if company.hasLogo then some (company.logoPath filename) else none
    tokenType
    tokens := tokens.map tokenLabel
    shareType
    shares
    home := findHome company.abbreviation hexes
    color := company.color.map tables.swatch }

def events (game : Game) (tables : Tables) (company : Company) : List Event :=
  templateEvents "token type" company.tokens game.tokenTypes ++
    templateEvents "share type" company.shares game.shareTypes ++
    (company.color.map tables.swatchEvents).getD []

end Company

structure CompiledTrain where
  name : String
  distance : Value
  price : Int64
  rustsOn : Option Value
  quantity : Option UInt32
  availableOn : Option Value
  discounts : List (String × Value)

/-- The distance of a train whose name tells none. -/
def unlimitedDistance : UInt32 := 999

/-- The number that a train's name begins with, blanks passed over. The digits of all scripts belong
to it, but only ASCII digits have a value. -/
def nameDistance (name : String) : UInt32 :=
  let digits := (name.toList.dropWhile Text.isBlank).takeWhile Text.isDecimalDigit
  ((Text.digits? digits).bind fun n => Word.uint32? n).getD unlimitedDistance

namespace Train

/-- The distance that is declared, unless it is null, or that of the name. -/
def reach (train : Train) : Value :=
  match train.distance with
  | none | some .null => .natural (nameDistance train.name).toNat
  | some distance => distance

/-- The path of the field for the number of trains. -/
def quantityField (train : Train) : String := "trains." ++ train.name ++ ".quantity"

/-- How many trains there are, where it is said. -/
def number (tables : Tables) (train : Train) : Except Malformed (Option UInt32) :=
  match train.quantity with
  | some count => (count.resolve train.quantityField tables.unlimitedQuantity).map some
  | none => .ok none

def compile (tables : Tables) (train : Train) : Except Malformed CompiledTrain := do
  let quantity ← train.number tables
  return {
    name := train.name
    distance := train.reach
    price := train.price.getD 0
    rustsOn := train.rustsOn
    quantity
    availableOn := train.availableOn
    discounts := train.discount.entries }

end Train

def compileTrains (tables : Tables) : List Train → Except Malformed (List CompiledTrain)
  | [] => .ok []
  | train :: rest => do
    let first ← train.compile tables
    return first :: (← compileTrains tables rest)

structure CompiledPhase where
  name : Option String
  on : Option Value
  limit : Option Value
  tiles : List String
  rounds : Option Value

/-- A phase with its defaults: it is called after its train, and allows all colors of tiles up to
the last that it names. -/
def Phase.compile (tables : Tables) (phase : Phase) : CompiledPhase where
  name := phase.name.or phase.train
  on := phase.on
  limit := phase.limit
  tiles := (phase.tiles.map tables.colorsThrough).getD []
  rounds := phase.rounds

namespace Game

def compiledPrivates (game : Game) : List CompiledPrivate := game.privates.map Private.compile

def compiledCompanies (game : Game) (hexes : List Hex) (filename : String) (tables : Tables) :
    List CompiledCompany :=
  game.companies.map (Company.compile game hexes filename tables)

def companyEvents (game : Game) (tables : Tables) : List Event :=
  game.companies.flatMap (Company.events game tables)

def compiledTrains (game : Game) (tables : Tables) : Except Malformed (List CompiledTrain) :=
  compileTrains tables game.trains

def compiledPhases (game : Game) (tables : Tables) : List CompiledPhase :=
  game.phases.map (Phase.compile tables)

end Game

end Rail18
