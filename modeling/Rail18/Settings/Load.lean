import Rail18.Disk.Basic
import Rail18.Settings.Layer
import Rail18.Toml.Parse

/-! # Loading settings

Settings are laid over one another: the defaults, the file, and the variables of the environment
whose names begin with the program's. A file that is not there or cannot be read is passed over; one
that is no TOML is an error. -/

namespace Rail18

/-- Why settings cannot be loaded or their default file not be written. -/
inductive SettingsError where
  | unsoundFile (path : String)
  | unsoundSettings
  | noDirectory (path : String)
  | unwritable (path : String)
deriving DecidableEq, Repr

def SettingsError.message : SettingsError → String
  | unsoundFile path => s!"failed to load configuration from {path}"
  | unsoundSettings => "failed to parse configuration"
  | noDirectory path => s!"failed to create config directory {path}"
  | unwritable path => s!"failed to write default config {path}"

/-- The text of an entry; there is none of tables and arrays. -/
def Entry.value : Entry → Except SettingsError String
  | .text value => .ok value
  | _ => .error .unsoundSettings

namespace Settings

def layer (settings : Settings) : Layer :=
  [("data_root", .text settings.dataRoot), ("tiles_file", .text settings.tilesFile),
   ("games_dir", .text settings.gamesDir), ("log_filter", .text settings.logFilter)]

def ofLayers (layers : List Layer) : Except SettingsError Settings := do
  let text (name : String) : Except SettingsError String :=
    match Layer.settle layers name with
    | some entry => entry.value
    | none => .error .unsoundSettings
  let dataRoot ← text "data_root"
  let tilesFile ← text "tiles_file"
  let gamesDir ← text "games_dir"
  let logFilter ← text "log_filter"
  let logFile ←
    match Layer.settle layers "log_file" with
    | some entry => entry.value.map some
    | none => .ok none
  return { dataRoot, tilesFile, gamesDir, logFilter, logFile }

def fileExtension : String := "toml"

/-- The path with the extension of settings added. -/
def beside? (path : String) : Option String := Path.extend? path ("." ++ fileExtension)

/-- The file that is meant by a path: the one at its end, which is passed over unless its extension
is that of settings, or else the one whose name has that extension beside. -/
def fileAt? (disk : Disk) (path : String) : Option String :=
  if disk.isFile path then
    if Path.extension? path = some fileExtension then some path else none
  else (beside? path).filter disk.isFile

/-- The layer of the file that is meant by a path. -/
def fileLayer (disk : Disk) (path : String) : Except SettingsError Layer :=
  match (fileAt? disk path).bind disk.text? with
  | none => .ok []
  | some text =>
    match Toml.parse? text with
    | some members => .ok (.ofMembers members)
    | none => .error (.unsoundFile path)

def loadFrom (disk : Disk) (env : Environment) (path : String) :
    Except SettingsError Settings := do
  let file ← fileLayer disk path
  ofLayers [env.defaultSettings.layer, file, .ofEnvironment env]

/-- Loads the settings from the user's file and the environment. -/
def load (disk : Disk) (env : Environment) : Except SettingsError Settings :=
  loadFrom disk env env.settingsPath

/-- The file of settings that is written for a user who has none: the defaults, and comments. -/
def defaultFile : String := "\n".intercalate
  ["# 18export configuration",
   "",
   "# Directory holding the game and tile definitions.",
   "# data_root = \"/path/to/definitions\"",
   "",
   "# Tile catalog, relative to data_root.",
   "tiles_file = \"tiles.json\"",
   "",
   "# Directory of game definitions, relative to data_root.",
   "games_dir = \"games\"",
   "",
   "# Default tracing filter; RUST_LOG takes precedence.",
   "log_filter = \"info\"",
   "",
   "# Append logs to this file as well as stderr.",
   "# log_file = \"/tmp/18export.log\"",
   ""]

/-- Writes the default file unless the user has one. -/
def writeDefault (disk : Disk) (env : Environment) : Except SettingsError Disk :=
  if disk.exists? env.settingsPath then .ok disk
  else
    match disk.makeDirectories env.settingsDirectory with
    | none => .error (.noDirectory env.settingsDirectory)
    | some disk =>
      match disk.write env.settingsPath defaultFile.toUTF8 with
      | none => .error (.unwritable env.settingsPath)
      | some disk => .ok disk

end Settings

end Rail18
