import Rail18.Dict
import Rail18.Disk.Path

/-! # Disks

The files and directories that a program sees. Each is known by the names that lead to it from the
root. In the order of the dictionary a directory stands before what is in it, and that before the
directory's next neighbour, which is the order of a walk. A walk ends early at a directory whose
contents it may not list, though what is in such a directory can still be opened by its path. -/

namespace Rail18

/-- What stands at a place of the disk. -/
inductive Content where
  | directory
  | file (bytes : ByteArray)

/-- The names that lead to a place from the root. -/
abbrev Place := List String

/-- A disk and the directory that relative paths start from. The root itself has no entry. `barred` are
the places of directories that cannot be listed. -/
structure Disk where
  entries : Dict Place Content := .empty
  current : Place := []
  barred : List Place := []

namespace Disk

def at? (disk : Disk) (place : Place) : Option Content :=
  if place = [] then some .directory else disk.entries.get? place

def hasDirectory (disk : Disk) (place : Place) : Bool :=
  match disk.at? place with
  | some .directory => true
  | _ => false

/-- Goes from a directory to what is called by a name. -/
def step (disk : Disk) (place : Place) (name : String) : Option Place :=
  if !disk.hasDirectory place then none
  else if name = "." then some place
  else if name = ".." then some place.dropLast
  else some (place ++ [name])

def start (disk : Disk) (path : String) : Place :=
  if Path.isAbsolute path then [] else disk.current

/-- The place that a path leads to. All but the last name have to be directories. -/
def locate (disk : Disk) (path : String) : Option Place :=
  if path = "" then none else (Path.names path).foldlM disk.step (disk.start path)

def find? (disk : Disk) (path : String) : Option Content := (disk.locate path).bind disk.at?

def exists? (disk : Disk) (path : String) : Bool := (disk.find? path).isSome

def isDirectory (disk : Disk) (path : String) : Bool :=
  match disk.find? path with
  | some .directory => true
  | _ => false

def bytes? (disk : Disk) (path : String) : Option ByteArray :=
  match disk.find? path with
  | some (.file bytes) => some bytes
  | _ => none

def isFile (disk : Disk) (path : String) : Bool := (disk.bytes? path).isSome

def text? (disk : Disk) (path : String) : Option String :=
  (disk.bytes? path).bind String.fromUTF8?

def put (disk : Disk) (place : Place) (content : Content) : Disk :=
  { disk with entries := disk.entries.insert place content }

/-- Writes a file into a directory that is there, over the file of its name. -/
def write (disk : Disk) (path : String) (bytes : ByteArray) : Option Disk := do
  let place ← disk.locate path
  if disk.hasDirectory place then none else some (disk.put place (.file bytes))

/-- Opens a file to append to it: it is made unless it is there. -/
def touch (disk : Disk) (path : String) : Option Disk :=
  match disk.find? path with
  | some (.file _) => some disk
  | some .directory => none
  | none => disk.write path ByteArray.empty

/-- Adds bytes to the end of a file, if it is there. -/
def append (disk : Disk) (path : String) (bytes : ByteArray) : Disk :=
  match disk.bytes? path, disk.locate path with
  | some before, some place => disk.put place (.file (before ++ bytes))
  | _, _ => disk

/-- Goes from a directory to one called by a name, which is made unless it is there. -/
def enter (disk : Disk) (place : Place) (name : String) : Option (Disk × Place) :=
  match disk.step place name with
  | none => none
  | some place =>
    match disk.at? place with
    | some .directory => some (disk, place)
    | some (.file _) => none
    | none => some (disk.put place .directory, place)

/-- Makes a directory and those that lead to it. -/
def makeDirectories (disk : Disk) (path : String) : Option Disk :=
  ((Path.names path).foldlM (fun (made : Disk × Place) name => made.1.enter made.2 name)
    (disk, disk.start path)).map (·.1)

/-- The directories from a place on that cannot be listed. -/
def barredFrom (disk : Disk) (place : Place) : List Place :=
  disk.barred.filter fun other => place.isPrefixOf other && disk.hasDirectory other

/-- The files below a place that a walk comes by, in its order, each with the names that lead on to
it. Nothing is met after a directory that cannot be listed. -/
def filesBelow (disk : Disk) (place : Place) : List Place :=
  disk.entries.entries.filterMap fun (other, content) =>
    match content with
    | .directory => none
    | .file _ =>
      if place.isPrefixOf other ∧ other ≠ place ∧
          (disk.barredFrom place).all (compare other · == .lt) then
        some (other.drop place.length)
      else none

/-- Takes away the right to list a directory. -/
def bar (disk : Disk) (place : Place) : Disk := { disk with barred := place :: disk.barred }

/-- Removes what stands at a place, with all that is below it. -/
def remove (disk : Disk) (place : Place) : Disk where
  entries :=
    ⟨disk.entries.entries.filter fun entry => !place.isPrefixOf entry.1,
      disk.entries.ascending.filter _⟩
  current := disk.current
  barred := disk.barred.filter fun other => !place.isPrefixOf other

end Disk

end Rail18
