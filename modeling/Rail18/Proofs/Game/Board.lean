import Rail18.Game.Board
import Rail18.Proofs.Hex.Copies

/-!
# The hexes of a variation

Tagging, following copies and striking coordinates together neither lose nor duplicate a hex: the
hexes of a variation are those that the map it copies declares and then its own, each under the index
of the map that declares it and with what is left of its own coordinates.
-/

namespace Rail18

/-- The hexes of the map that a map copies, if that is another map that there is. -/
def Board.takenHexes (boards : List Board) (selected : Nat) (board : Board) : List Hex :=
  match board.copy with
  | none => []
  | some copy => if copy.toNat = selected then [] else ((boards[copy.toNat]?).bind Board.hexes).getD []

/-- The variation that a hex is taken from and the coordinates that it has. -/
def Hex.place (hex : Hex) : Option UInt64 × List String := (hex.variation, hex.coords)

/-! ### Before copies are followed -/

section Declared

variable {boards : Boards} {board : Board} {variation : Nat}

theorem Board.inherited_eq (maps : List Board) (selected : Nat) (board : Board) :
    board.inherited maps selected =
      (board.takenHexes maps selected).map fun hex => { hex with variation := board.copy } := by
  unfold Board.inherited Board.source Board.takenHexes
  cases board.copy with
  | none => rfl
  | some copy =>
      have htag : Hex.tag copy.toNat = fun hex => { hex with variation := some copy } := by
        funext hex
        rw [Hex.tag, UInt64.ofNat_toNat]
      by_cases hself : copy.toNat = selected
      · simp only [hself, if_true, List.map_nil]
      · simp only [hself, if_false]
        cases maps[copy.toNat]? with
        | none => rfl
        | some base => simp only [Option.map_some, Option.bind_some, htag]

/-- A map has no hexes of its own only if it neither declares any nor copies another. -/
theorem Board.own_cases (selected : Nat) (board : Board) :
    ((∃ error, board.own selected = .error error) ∧ board.hexes = none ∧ board.copy = none) ∨
      (board.own selected = .ok ((board.hexes.getD []).map (Hex.tag selected)) ∧
        ¬ (board.hexes = none ∧ board.copy = none)) := by
  unfold Board.own
  cases board.hexes with
  | some hexes => simp
  | none =>
      cases board.copy with
      | some copy => simp
      | none => simp

theorem Boards.declared_of_none (h : boards.list[boards.selected variation]? = none) :
    ∃ error, boards.declared variation = .error error := by
  simp [Boards.declared, h]

theorem Boards.declared_of_some (h : boards.list[boards.selected variation]? = some board) :
    boards.declared variation = (board.own (boards.selected variation)).map fun own =>
      (board, board.inherited boards.list (boards.selected variation) ++ own) := by
  simp only [Boards.declared, h]
  rfl

end Declared

/-! ### The passes together -/

theorem place_eq_of_settled {hexes : List Hex} (hmarked : ∀ hex ∈ hexes, hex.variation ≠ none)
    {found : Fin hexes.length → Option Hex} {position : Fin hexes.length} {hex : Hex}
    (h : Copies.Settled hexes found position hex) : hex.place = (hexes.get position).place := by
  obtain ⟨variation, hvariation⟩ :=
    Option.ne_none_iff_exists'.mp (hmarked (hexes.get position) (List.getElem_mem _))
  rw [Hex.place, Hex.place, h.coords_eq, h.variation_eq hvariation, hvariation]

/-- Copies and strikes change no mark, and of the coordinates they only strike some. -/
theorem place_resolveCopies {hexes : List Hex} (hmarked : ∀ hex ∈ hexes, hex.variation ≠ none)
    (removed : List String) :
    ∃ resolved, resolveCopies hexes = .ok resolved ∧
      (resolved.map (Hex.strike removed)).map Hex.place =
        hexes.map fun hex => (hex.variation, hex.coords.filter (· ∉ removed)) := by
  obtain ⟨resolved, hresolved, hplaces⟩ :=
    Copies.resolveCopies_map Hex.place fun _ _ _ h => place_eq_of_settled hmarked h
  have hstrike : ∀ hex : Hex, (hex.strike removed).place =
      (hex.place.1, hex.place.2.filter (· ∉ removed)) := by
    intro hex
    simp [Hex.strike, Hex.place]
  refine ⟨resolved, hresolved, ?_⟩
  calc (resolved.map (Hex.strike removed)).map Hex.place
      = (resolved.map Hex.place).map fun place => (place.1, place.2.filter (· ∉ removed)) := by
        rw [List.map_map, List.map_map]
        exact List.map_congr_left fun hex _ => hstrike hex
    _ = hexes.map fun hex => (hex.variation, hex.coords.filter (· ∉ removed)) := by
        rw [hplaces, List.map_map]
        rfl

section Resolved

variable {game : Game} {boards : Boards} {variation : Nat}

theorem Game.resolveHexes_of_declared_error (hboards : game.boards = some boards)
    (h : ∃ error, boards.declared variation = .error error) :
    ∃ error, game.resolveHexes variation = .error error := by
  obtain ⟨error, herror⟩ := h
  refine ⟨.malformed error, ?_⟩
  rw [Game.resolveHexes, hboards]
  simp only [herror]
  rfl

theorem Game.resolveHexes_of_declared_ok {board : Board} {hexes : List Hex}
    (hboards : game.boards = some boards) (h : boards.declared variation = .ok (board, hexes)) :
    game.resolveHexes variation =
      (resolveCopies hexes).map (List.map (Hex.strike board.removed)) := by
  rw [Game.resolveHexes, hboards]
  simp only [h]
  change (resolveCopies hexes).bind _ = _
  cases resolveCopies hexes with
  | ok resolved => rfl
  | error error => rfl

/-- The passes over the hexes of a map that declares hexes or copies another. -/
theorem Game.resolveHexes_eq_map (hboards : game.boards = some boards) {board : Board}
    (hboard : boards.list[boards.selected variation]? = some board)
    (hdeclares : ¬ (board.hexes = none ∧ board.copy = none)) :
    game.resolveHexes variation =
      (resolveCopies (board.inherited boards.list (boards.selected variation) ++
        (board.hexes.getD []).map (Hex.tag (boards.selected variation)))).map
          (List.map (Hex.strike board.removed)) := by
  have hown := ((board.own_cases (boards.selected variation)).resolve_left fun h => hdeclares h.2).1
  have hdeclared := Boards.declared_of_some hboard
  rw [hown, Except.map] at hdeclared
  exact Game.resolveHexes_of_declared_ok hboards hdeclared

theorem Game.exists_resolveHexes (hboards : game.boards = some boards) {board : Board}
    (hboard : boards.list[boards.selected variation]? = some board)
    (hdeclares : ¬ (board.hexes = none ∧ board.copy = none)) :
    ∃ resolved, game.resolveHexes variation = .ok resolved ∧
      resolved.map Hex.place =
        (board.takenHexes boards.list (boards.selected variation)).map
          (fun hex => (board.copy, hex.coords.filter (· ∉ board.removed))) ++
        (board.hexes.getD []).map fun hex =>
          (some (.ofNat (boards.selected variation)), hex.coords.filter (· ∉ board.removed)) := by
  have hmarked : ∀ hex ∈ (board.takenHexes boards.list (boards.selected variation)).map
      (fun hex => { hex with variation := board.copy }) ++
      (board.hexes.getD []).map (Hex.tag (boards.selected variation)), hex.variation ≠ none := by
    intro hex hhex
    rcases List.mem_append.mp hhex with htaken | hown
    · obtain ⟨taken, htaken, rfl⟩ := List.mem_map.mp htaken
      intro hcopy
      change board.copy = none at hcopy
      rw [Board.takenHexes, hcopy] at htaken
      cases htaken
    · obtain ⟨own, -, rfl⟩ := List.mem_map.mp hown
      exact Option.some_ne_none _
  obtain ⟨resolved, hresolved, hplaces⟩ := place_resolveCopies hmarked board.removed
  have hpasses := Game.resolveHexes_eq_map hboards hboard hdeclares
  rw [Board.inherited_eq, hresolved] at hpasses
  refine ⟨_, hpasses, ?_⟩
  rw [hplaces, List.map_append, List.map_map, List.map_map]
  rfl

/-- The hexes of a variation can be resolved unless there is no such map or the map neither declares
hexes nor copies another. There are then as many as the map takes from the one it copies and declares
itself, in this order, each under the variation that declares it, with its own coordinates except
those that the map removes. -/
theorem Game.resolveHexes_places (hboards : game.boards = some boards) (variation : Nat) :
    ((∃ error, game.resolveHexes variation = .error error) ↔
      boards.list.length ≤ boards.selected variation ∨
        ∃ board, boards.list[boards.selected variation]? = some board ∧
          board.hexes = none ∧ board.copy = none) ∧
    ∀ board resolved, boards.list[boards.selected variation]? = some board →
      game.resolveHexes variation = .ok resolved →
        resolved.length = (board.takenHexes boards.list (boards.selected variation)).length +
          (board.hexes.getD []).length ∧
        resolved.map Hex.place =
          (board.takenHexes boards.list (boards.selected variation)).map
            (fun hex => (board.copy, hex.coords.filter (· ∉ board.removed))) ++
          (board.hexes.getD []).map fun hex =>
            (some (.ofNat (boards.selected variation)), hex.coords.filter (· ∉ board.removed)) := by
  cases hboard : boards.list[boards.selected variation]? with
  | none =>
      have houtside := List.getElem?_eq_none_iff.mp hboard
      refine ⟨⟨fun _ => .inl houtside, fun _ => ?_⟩, fun board resolved hsome => by cases hsome⟩
      exact Game.resolveHexes_of_declared_error hboards (Boards.declared_of_none hboard)
  | some board =>
      have hinside : ¬ boards.list.length ≤ boards.selected variation := by
        rw [← List.getElem?_eq_none_iff, hboard]
        exact Option.some_ne_none board
      rcases board.own_cases (boards.selected variation) with ⟨⟨error, herror⟩, hnothing⟩ | ⟨-, hdeclares⟩
      · have hdeclared := Boards.declared_of_some hboard
        rw [herror] at hdeclared
        obtain ⟨error, hfails⟩ := Game.resolveHexes_of_declared_error hboards ⟨error, hdeclared⟩
        refine ⟨⟨fun _ => .inr ⟨board, rfl, hnothing⟩, fun _ => ⟨error, hfails⟩⟩, ?_⟩
        intro _ resolved _ hok
        cases hfails.symm.trans hok
      · obtain ⟨result, hresult, hplaces⟩ := Game.exists_resolveHexes hboards hboard hdeclares
        refine ⟨⟨?_, ?_⟩, ?_⟩
        · rintro ⟨error, herror⟩
          cases hresult.symm.trans herror
        · rintro (houtside | ⟨other, hother, hnothing⟩)
          · exact absurd houtside hinside
          · obtain rfl := Option.some.inj hother
            exact absurd hnothing hdeclares
        · intro other resolved hother hok
          obtain rfl := Option.some.inj hother
          obtain rfl := Except.ok.inj (hresult.symm.trans hok)
          refine ⟨?_, hplaces⟩
          simpa using congrArg List.length hplaces

/-- Two maps: the second puts its hex, which copies one of the first map, after those of the first and
removes a coordinate of them. -/
def twoMaps : Boards :=
  .variations [{ hexes := some [{ color := some "plain", coords := ["A1", "A2"] }] },
    { hexes := some [{ coords := ["B1"], copy := some "A1" }], copy := some 0, removed := ["A2"] }]

theorem Game.resolveHexes_places_twoMaps :
    ∃ resolved, ({ boards := some twoMaps } : Game).resolveHexes 1 = .ok resolved ∧
      resolved.map Hex.place = [(some 0, ["A1"]), (some 1, ["B1"])] := by
  have hboards : ({ boards := some twoMaps } : Game).boards = some twoMaps := rfl
  obtain ⟨hfails, hplaces⟩ := Game.resolveHexes_places hboards 1
  cases hresult : ({ boards := some twoMaps } : Game).resolveHexes 1 with
  | error error =>
      rcases hfails.mp ⟨error, hresult⟩ with houtside | ⟨board, hboard, hnothing⟩
      · exact absurd houtside (by decide)
      · obtain rfl := Option.some.inj hboard
        cases hnothing.2
  | ok resolved =>
      refine ⟨resolved, rfl, (hplaces _ resolved rfl hresult).2.trans ?_⟩
      decide

end Resolved

end Rail18
