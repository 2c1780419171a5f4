import Rail18.CommandLine.Run

/-!
# The program

The outer layer: it looks at what a run may touch, runs the program on that, and carries out what
the run has changed.
-/

namespace Rail18.Main

def environment : IO Environment := do
  let bytes ← IO.FS.readBinFile "/proc/self/environ"
  let text := (String.fromUTF8? bytes).getD ""
  return (text.splitOn "\x00").filterMap fun line =>
    match line.splitOn "=" with
    | name :: value :: rest => some (name, "=".intercalate (value :: rest))
    | _ => none

/-- Adds what stands at one path to a disk. -/
def lookAt (disk : Disk) (path : String) : IO Disk := do
  let file := (← IO.currentDir) / path
  if ← file.isDir then return (disk.makeDirectories path).getD disk
  else if ← file.pathExists then
    return (disk.write path (← IO.FS.readBinFile file)).getD disk
  else return disk

/-- The paths that lead to a path, and the path itself. -/
def ways (path : String) : List String :=
  let start := if Path.isAbsolute path then "/" else "."
  let names := Path.names path
  (List.range (names.length + 1)).map fun n => (names.take n).foldl Path.join start

/-- Adds what stands at a path, and what leads to it, to a disk. -/
def lookTo (disk : Disk) (path : String) : IO Disk := (ways path).foldlM lookAt disk

/-- Adds what stands below a path to a disk. -/
partial def lookBelow (disk : Disk) (path : String) : IO Disk := do
  let disk ← lookTo disk path
  let file := (← IO.currentDir) / path
  if ← file.isDir then
    match ← file.readDir.toBaseIO with
    | .ok entries =>
      entries.foldlM (fun disk entry => lookBelow disk (Path.join path entry.fileName)) disk
    | .error _ => return ((disk.locate path).map disk.bar).getD disk
  else return disk

/-- Everything that a run may look at: its settings, and what they point to. -/
def surroundings (arguments : List String) (env : Environment) : IO Disk := do
  let current := Path.names (← IO.currentDir).toString
  let disk ← lookTo { current } ("/" ++ "/".intercalate current)
  match Arguments.parse arguments with
  | .invoke invocation =>
    let disk ← lookTo disk env.settingsPath
    let disk ← (Settings.beside? env.settingsPath).toList.foldlM lookTo disk
    match Settings.load disk env with
    | .error _ => return disk
    | .ok loaded =>
      let settings := invocation.override loaded
      let disk ← lookTo disk (settings.logFile.getD ".")
      lookBelow (← lookTo disk settings.tilesPath) settings.gamesPath
  | _ => return disk

/-- Makes the directories and writes the files that a run has added to the disk or made longer. -/
def carryOut (before after : Disk) : IO Unit :=
  for (place, content) in after.entries.entries do
    let path := "/" ++ "/".intercalate place
    match before.at? place, content with
    | none, .directory => IO.FS.createDirAll path
    | none, .file bytes => IO.FS.writeBinFile path bytes
    | some (.file old), .file bytes =>
      if old.size < bytes.size then IO.FS.writeBinFile path bytes
    | some _, _ => pure ()

end Rail18.Main

/-- Runs the program with the arguments of the command line. -/
def main (arguments : List String) : IO UInt32 := do
  let env ← Rail18.Main.environment
  let disk ← Rail18.Main.surroundings arguments env
  let outcome := Rail18.run disk env arguments
  Rail18.Main.carryOut disk outcome.disk
  (← IO.getStdout).putStr outcome.output
  if let some complaint := outcome.complaint then
    (← IO.getStderr).putStrLn complaint
  return outcome.exitCode.toUInt32
