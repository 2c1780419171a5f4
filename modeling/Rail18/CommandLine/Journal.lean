import Rail18.CommandLine.LogFilter
import Rail18.Library.Basic

/-! # Journals

The log file of a run. What is reported while the library is searched goes into it at once, so a log
file that is itself one of the files searched no longer holds a definition afterwards. -/

namespace Rail18

def Level.number : Level → Nat
  | warn => 2
  | info => 3
  | debug => 4

/-- The file that events are logged to, if there is one, and the filter that they pass. -/
structure Journal where
  filter : LogFilter
  file : Option String := none

namespace Journal

/-- The target of what a library reports, as filters name it. -/
def target : String := "export18_core"

def admits (journal : Journal) (event : Event) : Bool :=
  journal.filter.admits target event.fields event.level.number

def record (journal : Journal) (disk : Disk) (events : List Event) : Disk :=
  match journal.file with
  | none => disk
  | some path =>
    disk.append path (String.join ((events.filter journal.admits).map Event.line)).toUTF8

/-- Looks for a game in a file, after others have been found. -/
def visit (journal : Journal) (state : Disk × List GameEntry) (file : String × String) :
    Disk × List GameEntry :=
  let (disk, found) := state
  (journal.record disk (skipEvents disk file.2), found ++ (gameIn? disk file).toList)

/-- Searches a directory for games: the disk as the log leaves it, and the games that are found, if the
search comes to its end. -/
def search (journal : Journal) (disk : Disk) (root : String) :
    Disk × Except LibraryError (List GameEntry) :=
  if disk.isDirectory root then
    let (after, found) := (definitionFiles disk root).foldl journal.visit (disk, [])
    if isListed disk root then (journal.record after [foundEvent root found.length], .ok found)
    else (after, .error (.unlistedGames root))
  else (journal.record disk [absentEvent root], .ok [])

end Journal

end Rail18
