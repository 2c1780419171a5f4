import Rail18.Game.Basic
import Rail18.Hex.Copies

/-! # The hexes of a variation

A variation is its own hexes after those of the variation that it copies. Copies among all of them
are followed, and then the coordinates that the variation removes are struck; a hex stays even when
it has no coordinate left. -/

namespace Rail18

namespace Boards

def list : Boards → List Board
  | variations boards => boards
  | single board => [board]

/-- The index of the map that is meant; a single map is meant by every index. -/
def selected (variation : Nat) : Boards → Nat
  | variations _ => variation
  | single _ => 0

end Boards

/-- The hex marked with the variation that it is taken from. -/
def Hex.tag (variation : Nat) (h : Hex) : Hex := { h with variation := some (.ofNat variation) }

def Hex.strike (removed : List String) (h : Hex) : Hex :=
  { h with coords := h.coords.filter (!removed.contains ·) }

/-- The map that a map copies: another one that exists. -/
def Board.source (boards : List Board) (selected : Nat) (board : Board) : Option (Nat × Board) :=
  match board.copy with
  | none => none
  | some copy =>
    if copy.toNat = selected then none
    else (boards[copy.toNat]?).map fun base => (copy.toNat, base)

/-- The hexes that a map takes from the one that it copies. -/
def Board.inherited (boards : List Board) (selected : Nat) (board : Board) : List Hex :=
  match board.source boards selected with
  | some (index, base) => (base.hexes.getD []).map (Hex.tag index)
  | none => []

/-- The hexes that a map declares; without any it has to copy another. -/
def Board.own (selected : Nat) (board : Board) : Except Malformed (List Hex) :=
  match board.hexes, board.copy with
  | some hexes, _ => .ok (hexes.map (Hex.tag selected))
  | none, some _ => .ok []
  | none, none => .error (.noHexes selected)

/-- The hexes of a variation before copies among them are followed. -/
def Boards.declared (variation : Nat) (boards : Boards) :
    Except Malformed (Board × List Hex) :=
  let selected := boards.selected variation
  match boards.list[selected]? with
  | none => .error (.noVariation selected boards.list.length)
  | some board => do
    let own ← board.own selected
    return (board, board.inherited boards.list selected ++ own)

namespace Game

/-- The hexes of a variation. A game without a map has none. -/
def resolveHexes (game : Game) (variation : Nat) : Except CompileError (List Hex) :=
  match game.boards with
  | none => .ok []
  | some boards => do
    let (board, hexes) ← orMalformed (boards.declared variation)
    let resolved ← resolveCopies hexes
    return resolved.map (Hex.strike board.removed)

/-- The mention of a map to copy that there is not. -/
def sourceEvents (board : Board) (boards : List Board) (selected : Nat) : List Event :=
  match board.copy, board.source boards selected with
  | some copy, none =>
    let error := CompileError.unresolved "variation" (toString copy.toNat)
    [{ level := .warn, message := error.message ++ "; ignoring map copy" }]
  | _, _ => []

def resolveEvents (game : Game) (variation : Nat) : List Event :=
  match game.boards with
  | none => []
  | some boards =>
    match boards.declared variation with
    | .error _ => []
    | .ok (board, hexes) =>
      let selected := boards.selected variation
      sourceEvents board boards.list selected ++ copyEvents hexes ++
        match resolveCopies hexes with
        | .error _ => []
        | .ok resolved =>
          [{ level := .debug
             message := "resolved map hexes"
             details := [("variation", toString selected), ("count", toString resolved.length)] }]

end Game

end Rail18
