import Rail18.CommandLine.Arguments
import Rail18.CommandLine.Journal
import Rail18.Game.Writing
import Rail18.Settings.Load

/-! # Runs of the program

A run reads its arguments, writes default settings for a user who has none, loads the settings,
reads the log filter and opens the log file, and then does what it is asked to do. Each part may
fail, and leaves the disk as it then is and what has been printed by then. -/

namespace Rail18

/-- What a run leaves behind: its exit code, what it printed, the disk, and a complaint for the
user when it failed. -/
structure Outcome where
  exitCode : UInt8
  output : String
  disk : Disk
  complaint : Option String := none

inductive RunError where
  | settings (error : SettingsError)
  | badLogFilter
  | tornLogFilter
  | noLogFile (path : String)
  | library (error : LibraryError)
  | compile (error : CompileError)
deriving DecidableEq, Repr

def RunError.message : RunError → String
  | settings error => error.message
  | badLogFilter => "invalid log filter"
  | tornLogFilter => "log filter torn inside a character"
  | noLogFile path => s!"failed to open log file {path}"
  | library error => error.message
  | compile error => error.message

def RunError.exitCode : RunError → UInt8
  | tornLogFilter => 101
  | _ => 1

def versionText : String := "18export 0.1.0\n"

def usageText : String :=
  "usage: 18export [--data-root DIR] tiles | game NAME [--variation N] | list [QUERY]"

def Library.ofSettings (settings : Settings) : Library where
  gamesRoot := settings.gamesPath
  tilesPath := settings.tilesPath

/-- How far a run has come: the disk as it has left it, and what it has printed. -/
structure Progress where
  disk : Disk
  output : String := ""

/-- A part of a run. What it has done stays done when it fails. -/
abbrev Run (α : Type) := EStateM RunError Progress α

namespace Run

/-- Goes on with a result, unless it is an error. -/
def expect {ε α : Type} (reason : ε → RunError) : Except ε α → Run α
  | .ok value => pure value
  | .error error => throw (reason error)

def disk : Run Disk := return (← get).disk

def setDisk (disk : Disk) : Run Unit := modify fun progress => { progress with disk }

def printLine (line : String) : Run Unit :=
  modify fun progress => { progress with output := progress.output ++ line ++ "\n" }

def search (journal : Journal) (library : Library) : Run (List GameEntry) := do
  let (after, found) := journal.search (← disk) library.gamesRoot
  setDisk after
  expect .library found

/-- Reads the catalog that games are compiled with, if there is one. -/
def catalog? (library : Library) : Run (Option Catalog) := do
  let now ← disk
  if now.exists? library.tilesPath then
    let catalog ← expect .library (library.tiles now)
    return some catalog
  else return none

end Run

namespace Command

open Run

def printTiles (library : Library) : Run Unit := do
  let catalog ← expect .library (library.tiles (← disk))
  printLine (catalog.compile .standard .pointy).render

def printGame (journal : Journal) (library : Library) (name : String) (variation : Nat) :
    Run Unit := do
  let games ← search journal library
  let game ← expect .library (Library.readNamed (← disk) name games)
  let catalog ← catalog? library
  let compiled ← expect .compile (game.compile .standard catalog variation)
  printLine compiled.render

/-- Prints a line for each game that a query is about. -/
def printList (journal : Journal) (library : Library) (query : String) : Run Unit := do
  let games ← search journal library
  (Library.about query games).forM fun entry => printLine entry.display

def perform (journal : Journal) (library : Library) : Command → Run Unit
  | tiles => printTiles library
  | game name variation => printGame journal library name variation
  | list query => printList journal library query

end Command

namespace Invocation

open Run

/-- The settings with the root of the data that the arguments give. -/
def override (invocation : Invocation) (settings : Settings) : Settings :=
  { settings with dataRoot := invocation.dataRoot.getD settings.dataRoot }

/-- The log filter: that of the environment if it is well formed, or else that of the settings. -/
def logFilter (env : Environment) (settings : Settings) : Except RunError LogFilter :=
  let ofSettings :=
    (LogFilter.parse settings.logFilter).mapError fun
      | .malformed => RunError.badLogFilter
      | .torn => .tornLogFilter
  match env.lookup "RUST_LOG" with
  | none => ofSettings
  | some text =>
    match LogFilter.parse text with
    | .ok filter => .ok filter
    | .error .malformed => ofSettings
    | .error .torn => .error .tornLogFilter

/-- Opens the log file, if there is to be one. -/
def openLog (disk : Disk) (settings : Settings) : Except RunError Disk :=
  match settings.logFile with
  | none => .ok disk
  | some path =>
    match disk.touch path with
    | some disk => .ok disk
    | none => .error (.noLogFile path)

/-- Gets ready to do what is asked for: writes the default settings, loads the settings, reads the log
filter and opens the log file. -/
def prepare (invocation : Invocation) (env : Environment) : Run (Settings × Journal) := do
  let installed ← expect .settings (Settings.writeDefault (← disk) env)
  setDisk installed
  let loaded ← expect .settings (Settings.load installed env)
  let settings := invocation.override loaded
  let filter ← expect id (logFilter env settings)
  let opened ← expect id (openLog installed settings)
  setDisk opened
  return (settings, { filter, file := settings.logFile })

def perform (invocation : Invocation) (env : Environment) : Run Unit := do
  let (settings, journal) ← invocation.prepare env
  invocation.command.perform journal (.ofSettings settings)

end Invocation

/-- What a run leaves behind when it has come to its end, or has failed. -/
def Outcome.ofResult : EStateM.Result RunError Progress Unit → Outcome
  | .ok _ progress => ⟨0, progress.output, progress.disk, none⟩
  | .error error progress => ⟨error.exitCode, progress.output, progress.disk, some error.message⟩

def run (disk : Disk) (env : Environment) (arguments : List String) : Outcome :=
  match Arguments.parse arguments with
  | .misuse => ⟨2, "", disk, some usageText⟩
  | .version => ⟨0, versionText, disk, none⟩
  | .invoke invocation => .ofResult ((invocation.perform env).run { disk })

end Rail18
