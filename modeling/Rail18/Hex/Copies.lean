import Rail18.Event
import Rail18.Hex.Inheritance
import Rail18.Text.Quoted

/-! # Following copies

Every hex that copies a coordinate is replaced by its own fields over those of the first hex that
lists the coordinate, which may itself be a copy and may come later. A hex that copies itself, a
coordinate that no hex lists, or a hex whose copy is just being followed stays as declared, so a
cycle is cut where it closes.

While copies are followed, the positions that are being visited are kept. A position is never
entered while it is visited, so the number of positions that are not visited bounds the depth. What
has been found for a position is kept and not found again. -/

namespace Rail18

def untrodden {n : Nat} (trail : List (Fin n)) : List (Fin n) :=
  (List.finRange n).filter (· ∉ trail)

theorem untrodden_cons_length_lt {n : Nat} {trail : List (Fin n)} {position : Fin n}
    (fresh : position ∉ trail) :
    (untrodden (position :: trail)).length < (untrodden trail).length := by
  have narrowed : untrodden (position :: trail) = (untrodden trail).filter (· ≠ position) := by
    simp only [untrodden, List.filter_filter, List.mem_cons, not_or, Bool.decide_and]
  rw [narrowed, List.length_filter_lt_length_iff_exists]
  exact ⟨position, by simp [untrodden, List.mem_finRange, fresh], by simp⟩

namespace Copies

/-- What has been found so far: the resolved hexes by position, the positions whose copies are being
followed, and the positions left as declared though they name a coordinate to copy, in the order
met. -/
structure State (n : Nat) where
  found : Vector (Option Hex) n := Vector.replicate n none
  visiting : List (Fin n) := []
  unresolved : List (Fin n) := []

namespace State

variable {n : Nat}

/-- Begins to follow the copy of a position. -/
def enter (state : State n) (position : Fin n) : State n :=
  { state with visiting := state.visiting.insert position }

def leave (state : State n) (position : Fin n) : State n :=
  { state with visiting := state.visiting.erase position }

/-- Remembers what has been found for a position. -/
def keep (state : State n) (position : Fin n) (hex : Hex) : State n :=
  { state with found := state.found.set position (some hex) }

/-- Notes a position whose copy cannot be followed. -/
def giveUp (state : State n) (position : Fin n) : State n :=
  { state with unresolved := state.unresolved ++ [position] }

end State

/-- The first position whose hex lists the coordinate. -/
def position? (hexes : List Hex) (coord : String) : Option (Fin hexes.length) :=
  hexes.findFinIdx? (·.coords.contains coord)

/-- The hex that a hex becomes over the one that it copies. -/
def settle (hex base : Hex) : Except CompileError Hex := do
  let merged ← base.merge hex
  return { merged with copy := none }

/-- Leaves a hex as declared though it names a coordinate to copy. -/
def keepPartial (hexes : List Hex) (position : Fin hexes.length) (state : State hexes.length) :
    Except CompileError Hex × State hexes.length :=
  (.ok (hexes.get position), (state.giveUp position).keep position (hexes.get position))

def follow (hexes : List Hex) (position : Fin hexes.length) (state : State hexes.length) :
    Except CompileError Hex × State hexes.length :=
  match state.found.get position with
  | some hex => (.ok hex, state)
  | none =>
    match (hexes.get position).copy with
    | none => (.ok (hexes.get position), state.keep position (hexes.get position))
    | some coord =>
      match position? hexes coord with
      | none => keepPartial hexes position state
      | some target =>
        if _ : target = position ∨ target ∈ state.visiting then
          keepPartial hexes position state
        else
          let (base, state) := follow hexes target (state.enter position)
          match base.bind (settle (hexes.get position)) with
          | .ok resolved => (.ok resolved, (state.leave position).keep position resolved)
          | .error error => (.error error, state.leave position)
termination_by (untrodden (position :: state.visiting)).length
decreasing_by
  have fresh : target ∉ position :: state.visiting := by
    simpa using ‹¬ (target = position ∨ target ∈ state.visiting)›
  have entered : untrodden (target :: (state.enter position).visiting) =
      untrodden (target :: position :: state.visiting) := by
    simp [untrodden, State.enter]
  rw [entered]
  exact untrodden_cons_length_lt fresh

/-- Finds the hexes at several positions, one after the other, up to the first failure. -/
def followAll (hexes : List Hex) :
    List (Fin hexes.length) → State hexes.length →
      Except CompileError (List Hex) × State hexes.length
  | [], state => (.ok [], state)
  | position :: rest, state =>
    match follow hexes position state with
    | (.error error, state) => (.error error, state)
    | (.ok hex, state) =>
      let (resolved, state) := followAll hexes rest state
      (resolved.map (hex :: ·), state)

def run (hexes : List Hex) : Except CompileError (List Hex) × State hexes.length :=
  followAll hexes (List.finRange hexes.length) {}

end Copies

def resolveCopies (hexes : List Hex) : Except CompileError (List Hex) := (Copies.run hexes).1

def copyEvent (hex : Hex) : Event where
  level := .warn
  message := (CompileError.unresolved "hex" (hex.copy.getD "")).message ++ "; keeping partial hex"
  details := [("coords", Text.quotedList hex.coords)]

/-- The copies that could not be followed, in the order met. -/
def copyEvents (hexes : List Hex) : List Event :=
  (Copies.run hexes).2.unresolved.map fun position => copyEvent (hexes.get position)

end Rail18
