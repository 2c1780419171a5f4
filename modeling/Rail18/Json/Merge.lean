import Rail18.Json.Value

/-! # Merging values

A value laid over another. Two objects are joined member by member, to any depth; whatever else is
laid over a value replaces it, so that an array is never joined with an array. -/

namespace Rail18.Json

/-- Puts a value under a name: in the place of the member that has the name, or at the end. -/
def putMember (name : String) (value : Value) : List (String × Value) → List (String × Value)
  | [] => [(name, value)]
  | (other, old) :: rest =>
    if other = name then (other, value) :: rest else (other, old) :: putMember name value rest

mutual

def Value.merge : Value → Value → Value
  | .object base, .object overlay => .object (mergeMembers base overlay)
  | _, overlay => overlay

/-- The members of an object with those of another laid over them. -/
def mergeMembers : List (String × Value) → List (String × Value) → List (String × Value)
  | base, [] => base
  | base, (name, value) :: rest =>
    let merged :=
      match base.lookup name with
      | some old => old.merge value
      | none => value
    mergeMembers (putMember name merged base) rest

end

end Rail18.Json
