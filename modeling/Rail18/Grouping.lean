/-! # Grouping

Lists of groups by key, in the order in which the keys first appear. -/

namespace Rail18

/-- Changes the group of a key; a key without a group gets one at the end. -/
def changeGroup {κ α : Type} [DecidableEq κ] (key : κ) (start : α) (change : α → α) :
    List (κ × α) → List (κ × α)
  | [] => [(key, change start)]
  | (other, group) :: rest =>
    if other = key then (other, change group) :: rest
    else (other, group) :: changeGroup key start change rest

/-- The groups of a list of items: each item is added to the group of its key. -/
def groupBy {ι κ α : Type} [DecidableEq κ] (key : ι → κ) (start : α) (add : ι → α → α)
    (items : List ι) : List (κ × α) :=
  items.foldl (fun groups item => changeGroup (key item) start (add item) groups) []

end Rail18
