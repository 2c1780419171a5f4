import Rail18.Text.Split

/-! # Paths

A path is kept as it was written; joining two paths normalises nothing. -/

namespace Rail18.Path

def isAbsolute (path : String) : Bool := path.toList.head? = some '/'

/-- One path below another. An absolute path stands for itself, and a separator that is there is not
doubled. -/
def join (base path : String) : String :=
  if isAbsolute path then path
  else if base.isEmpty || base.toList.getLast? = some '/' then base ++ path
  else base ++ "/" ++ path

/-- The names that a path leads through. A slash at its end asks for a directory, as a dot does. -/
def names (path : String) : List String :=
  let parts := Text.splitAt '/' path.toList
  let names := (parts.filter (· ≠ [])).map String.ofList
  if parts.getLast? = some [] then names ++ ["."] else names

/-- A file name split at its last dot. A dot at the beginning does not count. -/
def splitExtension (name : String) : String × Option String :=
  let reversed := name.toList.reverse
  let extension := reversed.takeWhile (· ≠ '.')
  match reversed.dropWhile (· ≠ '.') with
  | '.' :: stem =>
    if stem = [] then (name, none)
    else (.ofList stem.reverse, some (.ofList extension.reverse))
  | _ => (name, none)

def extension? (path : String) : Option String := (splitExtension ((names path).getLast?.getD "")).2

/-- A path with something more at the end of its last name. What stands after that name is left out;
a path that ends upward or has no names is not extended. -/
def extend? (path ending : String) : Option String :=
  match (Text.splitAt '/' path.toList).reverse.dropWhile fun part => part = [] || part = ['.'] with
  | [] | ['.', '.'] :: _ => none
  | parts => some ("/".intercalate (parts.reverse.map String.ofList) ++ ending)

end Rail18.Path
