import Rail18.Disk.Path

/-! # Settings

Where the definitions lie and how much is logged. -/

namespace Rail18

abbrev Environment := List (String × String)

structure Settings where
  dataRoot : String
  tilesFile : String
  gamesDir : String
  logFilter : String
  logFile : Option String := none
deriving DecidableEq

namespace Settings

def tilesPath (settings : Settings) : String := Path.join settings.dataRoot settings.tilesFile

def gamesPath (settings : Settings) : String := Path.join settings.dataRoot settings.gamesDir

end Settings

namespace Environment

/-- The directory that the variable of a name gives, if it is an absolute path, or else one below
the home directory. -/
def userDirectory (env : Environment) (name fallback : String) : String :=
  match (env.lookup name).filter Path.isAbsolute with
  | some directory => directory
  | none =>
    match (env.lookup "HOME").filter (· ≠ "") with
    | some home => Path.join home fallback
    | none => "."

def settingsDirectory (env : Environment) : String :=
  Path.join (env.userDirectory "XDG_CONFIG_HOME" ".config") "18export"

def settingsPath (env : Environment) : String := Path.join env.settingsDirectory "config.toml"

def dataDirectory (env : Environment) : String :=
  Path.join (env.userDirectory "XDG_DATA_HOME" ".local/share") "18export"

/-- The settings without a file and without variables of the program. -/
def defaultSettings (env : Environment) : Settings where
  dataRoot := env.dataDirectory
  tilesFile := "tiles.json"
  gamesDir := "games"
  logFilter := "info"

end Environment

end Rail18
