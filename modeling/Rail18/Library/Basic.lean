import Rail18.Catalog
import Rail18.Disk.Basic
import Rail18.Json.Parse
import Rail18.Library.Entry
import Rail18.Library.Header

/-! # Libraries

Definitions below a directory, and a catalog of tiles. What has been found is remembered until the
library is pointed elsewhere, unless nothing was found; the definitions themselves are read anew
each time. -/

namespace Rail18

/-- A directory of games, a catalog, and the games that are remembered. -/
structure Library where
  gamesRoot : String
  tilesPath : String
  found : List GameEntry := []

/-- Why a library cannot give what is asked for. -/
inductive LibraryError where
  | unlistedGames (root : String)
  | unknownGame (name : String)
  | unreadableGame (path : String)
  | unsoundGame (path : String)
  | unreadableCatalog (path : String)
  | unsoundCatalog (path : String)
deriving DecidableEq, Repr

def LibraryError.message : LibraryError → String
  | unlistedGames root => s!"failed to walk {root}"
  | unknownGame name => s!"unknown game '{name}'"
  | unreadableGame path => s!"failed to read {path}"
  | unsoundGame path => s!"failed to parse game definition {path}"
  | unreadableCatalog path => s!"failed to read tile catalog {path}"
  | unsoundCatalog path => s!"failed to parse tile catalog {path}"

inductive Unfit where
  | unreadable
  | unsound
deriving DecidableEq, Repr

def Unfit.message (path : String) : Unfit → String
  | unreadable => s!"failed to read {path}: stream did not contain valid UTF-8"
  | unsound => s!"failed to parse {path}"

def headerTitle (disk : Disk) (path : String) : Except Unfit (Option String) :=
  match disk.text? path with
  | none => .error .unreadable
  | some text => ((Json.parse text).read readHeader).mapError fun _ => .unsound

theorem headerTitle_of_text {disk : Disk} {path text : String} (h : disk.text? path = some text) :
    headerTitle disk path = ((Json.parse text).read readHeader).mapError fun _ => .unsound := by
  rw [headerTitle, h]

/-- The id of the definition in a file of a name, if the name is one of a definition. -/
def definitionId? (name : String) : Option String :=
  match Path.splitExtension name with
  | (id, some "json") => some id
  | _ => none

/-- The files of definitions that a walk below a directory comes by, in its order: the id of each, and
the path from the directory on. -/
def definitionFiles (disk : Disk) (root : String) : List (String × String) :=
  match disk.locate root with
  | none => []
  | some place =>
    (disk.filesBelow place).filterMap fun names =>
      (definitionId? (names.getLast?.getD "")).map fun id => (id, names.foldl Path.join root)

/-- The game in a file, if the header of its definition can be read. -/
def gameIn? (disk : Disk) (file : String × String) : Option GameEntry :=
  match headerTitle disk file.2 with
  | .ok title => some { id := file.1, title, path := file.2 }
  | .error _ => none

/-- Whether every directory below a directory, and itself, can be listed. -/
def isListed (disk : Disk) (root : String) : Bool :=
  match disk.locate root with
  | none => true
  | some place => (disk.barredFrom place).isEmpty

/-- The games below a directory in the order of a walk; there are none where there is no directory. -/
def discover (disk : Disk) (root : String) : Except LibraryError (List GameEntry) :=
  if !disk.isDirectory root then .ok []
  else if isListed disk root then .ok ((definitionFiles disk root).filterMap (gameIn? disk))
  else .error (.unlistedGames root)

/-- The mention of a file that is passed over. -/
def skipEvents (disk : Disk) (path : String) : List Event :=
  match headerTitle disk path with
  | .ok _ => []
  | .error unfit => [{ level := .warn, message := s!"Skipping {path}: {unfit.message path}" }]

/-- The report of how many games were found below a directory. -/
def foundEvent (root : String) (count : Nat) : Event where
  level := .debug
  message := "discovered games"
  details := [("count", toString count), ("root", root)]

/-- The mention of a directory that is not there. -/
def absentEvent (root : String) : Event where
  level := .warn
  message := s!"game directory {root} does not exist"

def discoverEvents (disk : Disk) (root : String) : List Event :=
  if disk.isDirectory root then
    (definitionFiles disk root).flatMap (fun file => skipEvents disk file.2) ++
      match discover disk root with
      | .ok games => [foundEvent root games.length]
      | .error _ => []
  else [absentEvent root]

namespace Library

/-- Points the library elsewhere and forgets what was found. -/
def refresh (library : Library) (gamesRoot tilesPath : String) : Library :=
  { library with gamesRoot, tilesPath, found := [] }

/-- The games that are remembered, or else those that are found now. -/
def games (disk : Disk) (library : Library) : Except LibraryError (List GameEntry) :=
  if library.found.isEmpty then discover disk library.gamesRoot else .ok library.found

/-- The library after its games have been asked for. A search that fails leaves it as it was. -/
def remember (disk : Disk) (library : Library) : Library :=
  match library.games disk with
  | .ok found => { library with found }
  | .error _ => library

/-- What a library may be asked. -/
inductive Request where
  | refresh (gamesRoot tilesPath : String)
  | games
  | gamesMatching (query : String)
  | game (name : String)
  | tiles

def after (disk : Disk) (library : Library) : Request → Library
  | .refresh gamesRoot tilesPath => library.refresh gamesRoot tilesPath
  | .games | .gamesMatching _ | .game _ => library.remember disk
  | .tiles => library

def events (disk : Disk) (library : Library) : Request → List Event
  | .games | .gamesMatching _ | .game _ =>
    if library.found.isEmpty then discoverEvents disk library.gamesRoot else []
  | .refresh .. | .tiles => []

/-- The games, of some, that a query is about; an empty query is about all. -/
def about (query : String) (games : List GameEntry) : List GameEntry :=
  if needle query = "" then games else games.filter (·.mentions query)

def gamesMatching (disk : Disk) (query : String) (library : Library) :
    Except LibraryError (List GameEntry) :=
  (library.games disk).map (about query)

def readGame (disk : Disk) (path : String) : Except LibraryError Game :=
  match disk.text? path with
  | none => .error (.unreadableGame path)
  | some text =>
    match (Json.parse text).read Game.read with
    | .ok game => .ok game
    | .error _ => .error (.unsoundGame path)

/-- Reads the first game, of some, that goes by a name. -/
def readNamed (disk : Disk) (name : String) (games : List GameEntry) : Except LibraryError Game :=
  match games.find? (·.goesBy name) with
  | some entry => readGame disk entry.path
  | none => .error (.unknownGame name)

def game (disk : Disk) (name : String) (library : Library) : Except LibraryError Game := do
  let games ← library.games disk
  readNamed disk name games

def tiles (disk : Disk) (library : Library) : Except LibraryError Catalog :=
  match disk.text? library.tilesPath with
  | none => .error (.unreadableCatalog library.tilesPath)
  | some text =>
    match (Json.parse text).read Catalog.read with
    | .ok catalog => .ok catalog
    | .error _ => .error (.unsoundCatalog library.tilesPath)

end Library

end Rail18
