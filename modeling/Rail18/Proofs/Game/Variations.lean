import Rail18.Proofs.Game.HexTable

/-!
# What a variation takes from another

A variation begins with the hexes that another map declares itself. What this map in turn takes from a
third stays out, and what it strikes comes back, so a variation that adds nothing is the one it copies
only if that one declares all its hexes and strikes none of their coordinates. A coordinate that is
declared again is not replaced: the hex table lists it for both hexes.
-/

namespace Rail18

/-! ### The parts of a variation -/

namespace Game

/-- All maps of a game. -/
def maps (game : Game) : List Board := (game.boards.map Boards.list).getD []

/-- The map that a variation means. -/
def board? (game : Game) (variation : Nat) : Option Board := game.maps[game.shownVariation variation]?

/-- The hexes that a variation takes from another map. -/
def takenHexes (game : Game) (variation : Nat) : List Hex :=
  ((game.board? variation).map (Board.takenHexes game.maps (game.shownVariation variation))).getD []

def ownHexes (game : Game) (variation : Nat) : List Hex :=
  ((game.board? variation).bind Board.hexes).getD []

def removedCoords (game : Game) (variation : Nat) : List String :=
  ((game.board? variation).map Board.removed).getD []

/-- The hexes of a variation before copies among them are followed. -/
def gatheredHexes (game : Game) (variation : Nat) : List Hex :=
  (game.takenHexes variation).map
      (fun hex => { hex with variation := (game.board? variation).bind Board.copy }) ++
    (game.ownHexes variation).map (Hex.tag (game.shownVariation variation))

variable {game : Game} {variation : Nat} {board : Board} {hexes : List Hex}

theorem takenHexes_of_board? (hboard : game.board? variation = some board) :
    game.takenHexes variation = board.takenHexes game.maps (game.shownVariation variation) := by
  rw [takenHexes, hboard]
  rfl

theorem ownHexes_of_board? (hboard : game.board? variation = some board) :
    game.ownHexes variation = board.hexes.getD [] := by
  rw [ownHexes, hboard]
  rfl

theorem removedCoords_of_board? (hboard : game.board? variation = some board) :
    game.removedCoords variation = board.removed := by
  rw [removedCoords, hboard]
  rfl

theorem maps_of_boards {boards : Boards} (hboards : game.boards = some boards) :
    game.maps = boards.list := by
  rw [maps, hboards]
  rfl

theorem shownVariation_of_boards {boards : Boards} (hboards : game.boards = some boards) :
    game.shownVariation variation = boards.selected variation := by
  rw [shownVariation, hboards]
  cases boards <;> rfl

theorem board?_of_boards {boards : Boards} (hboards : game.boards = some boards) :
    game.board? variation = boards.list[boards.selected variation]? := by
  rw [board?, maps_of_boards hboards, shownVariation_of_boards hboards]

theorem resolveHexes_of_board? (hboard : game.board? variation = some board)
    (hdeclares : ¬ (board.hexes = none ∧ board.copy = none)) :
    game.resolveHexes variation =
      (resolveCopies (game.gatheredHexes variation)).map
        (List.map (Hex.strike (game.removedCoords variation))) := by
  cases hboards : game.boards with
  | none => simp [board?, maps, hboards] at hboard
  | some boards =>
      have hselected := (board?_of_boards hboards).symm.trans hboard
      rw [resolveHexes_eq_map hboards hselected hdeclares, Board.inherited_eq, gatheredHexes,
        takenHexes_of_board? hboard, ownHexes_of_board? hboard, removedCoords_of_board? hboard, hboard,
        maps_of_boards hboards, shownVariation_of_boards hboards, Option.bind_some]

theorem declares_of_resolveHexes (h : game.resolveHexes variation = .ok hexes)
    (hboard : game.board? variation = some board) : ¬ (board.hexes = none ∧ board.copy = none) := by
  cases hboards : game.boards with
  | none => simp [board?, maps, hboards] at hboard
  | some boards =>
      have hselected := (board?_of_boards hboards).symm.trans hboard
      rcases board.own_cases (boards.selected variation) with ⟨⟨error, herror⟩, -⟩ | ⟨-, hdeclares⟩
      · have hdeclared := Boards.declared_of_some hselected
        rw [herror] at hdeclared
        obtain ⟨error, hfails⟩ := resolveHexes_of_declared_error hboards ⟨error, hdeclared⟩
        cases hfails.symm.trans h
      · exact hdeclares

/-- The hexes of a variation are those gathered for it, with copies followed and coordinates struck. -/
theorem resolveHexes_eq_ok (h : game.resolveHexes variation = .ok hexes) :
    ∃ passed, resolveCopies (game.gatheredHexes variation) = .ok passed ∧
      hexes = passed.map (Hex.strike (game.removedCoords variation)) := by
  cases hboard : game.board? variation with
  | some board =>
      rw [resolveHexes_of_board? hboard (declares_of_resolveHexes h hboard)] at h
      obtain ⟨passed, hpassed, rfl⟩ := map_eq_ok.mp h
      exact ⟨passed, hpassed, rfl⟩
  | none =>
      cases hboards : game.boards with
      | none =>
          rw [resolveHexes, hboards] at h
          obtain rfl := Except.ok.inj h
          refine ⟨[], ?_, rfl⟩
          simp only [gatheredHexes, takenHexes, ownHexes, hboard]
          rfl
      | some boards =>
          have hselected := (board?_of_boards hboards).symm.trans hboard
          obtain ⟨error, hfails⟩ :=
            resolveHexes_of_declared_error hboards (Boards.declared_of_none hselected)
          cases hfails.symm.trans h

theorem resolveHexes_of_plain (hboard : game.board? variation = some board)
    (hdeclares : ¬ (board.hexes = none ∧ board.copy = none))
    (hplain : ∀ hex ∈ game.gatheredHexes variation, hex.copy = none) :
    game.resolveHexes variation =
      .ok ((game.gatheredHexes variation).map (Hex.strike (game.removedCoords variation))) := by
  rw [resolveHexes_of_board? hboard hdeclares, Copies.resolveCopies_eq_self hplain]
  rfl

/-- The coordinates of a variation are those of the hexes taken and then of its own, as far as they are
not struck. -/
theorem coords_of_resolveHexes (h : game.resolveHexes variation = .ok hexes) :
    hexes.map Hex.coords =
      ((game.takenHexes variation ++ game.ownHexes variation).map Hex.coords).map
        (List.filter (· ∉ game.removedCoords variation)) := by
  obtain ⟨passed, hpassed, rfl⟩ := resolveHexes_eq_ok h
  have hgathered : (game.gatheredHexes variation).map Hex.coords =
      (game.takenHexes variation ++ game.ownHexes variation).map Hex.coords := by
    simp [gatheredHexes, Function.comp_def, Hex.tag]
  rw [← hgathered, ← Copies.coords_resolveCopies hpassed, List.map_map, List.map_map]
  refine List.map_congr_left fun hex _ => ?_
  simp [Hex.strike]

end Game

/-! ### A variation that only copies -/

def Hex.unmarked (hex : Hex) : Hex := { hex with variation := none }

theorem Hex.strike_eq_self {hex : Hex} {removed : List String}
    (h : ∀ coord ∈ hex.coords, coord ∉ removed) : hex.strike removed = hex := by
  have hkept : hex.coords.filter (!removed.contains ·) = hex.coords :=
    List.filter_eq_self.mpr fun coord hcoord => by simpa using h coord hcoord
  rw [Hex.strike, hkept]

/-- Strikes leave a hex alone only if it has none of the coordinates struck. -/
theorem Hex.unmarked_strike_eq_iff {hex : Hex} {removed : List String} :
    (hex.strike removed).unmarked = hex.unmarked ↔ ∀ coord ∈ hex.coords, coord ∉ removed := by
  constructor
  · intro h
    have hcoords : hex.coords.filter (!removed.contains ·) = hex.coords := congrArg Hex.coords h
    intro coord hcoord
    simpa using List.filter_eq_self.mp hcoords coord hcoord
  · intro h
    rw [Hex.strike_eq_self h]

theorem Hex.map_unmarked_strike_eq_iff {copied declared : List Hex} {removed : List String}
    (hcoords : copied.map Hex.coords = declared.map Hex.coords) :
    (copied.map (Hex.strike removed)).map Hex.unmarked = copied.map Hex.unmarked ↔
      ∀ hex ∈ declared, ∀ coord ∈ hex.coords, coord ∉ removed := by
  have hforall (list : List Hex) :
      (∀ hex ∈ list, ∀ coord ∈ hex.coords, coord ∉ removed) ↔
        ∀ coords ∈ list.map Hex.coords, ∀ coord ∈ coords, coord ∉ removed := by
    rw [List.forall_mem_map]
  rw [List.map_map, List.map_inj_left]
  simp only [Function.comp_apply, Hex.unmarked_strike_eq_iff]
  rw [hforall, hforall, hcoords]

namespace Game

variable {game : Game} {boards : List Board} {chosen : Nat} {board : Board} {copy : UInt64}
  {hexes : List Hex}

/-- What a variation without hexes of its own is made of: the hexes that the other map declares. -/
theorem gatheredHexes_of_copy (hboards : game.boards = some (.variations boards))
    (hboard : boards[chosen]? = some board) (hcopy : board.copy = some copy)
    (hother : copy.toNat ≠ chosen) (hown : board.hexes.getD [] = []) :
    game.gatheredHexes chosen = (game.ownHexes copy.toNat).map (Hex.tag copy.toNat) := by
  have hchosen : game.board? chosen = some board := (board?_of_boards hboards).trans hboard
  have htaken : game.takenHexes chosen = game.ownHexes copy.toNat := by
    rw [takenHexes_of_board? hchosen, Board.takenHexes, hcopy, maps_of_boards hboards,
      shownVariation_of_boards hboards, ownHexes, board?_of_boards hboards]
    exact if_neg hother
  have htag : Hex.tag copy.toNat = fun hex => { hex with variation := some copy } := by
    funext hex
    rw [Hex.tag, UInt64.ofNat_toNat]
  rw [gatheredHexes, htaken, ownHexes_of_board? hchosen, hown, hchosen, Option.bind_some, hcopy, htag,
    List.map_nil, List.append_nil]

theorem resolveHexes_of_copy (hboards : game.boards = some (.variations boards))
    (hboard : boards[chosen]? = some board) (hcopy : board.copy = some copy)
    (hother : copy.toNat ≠ chosen) (hown : board.hexes.getD [] = []) (hremoved : board.removed = []) :
    game.resolveHexes chosen =
      resolveCopies ((game.ownHexes copy.toNat).map (Hex.tag copy.toNat)) := by
  have hchosen : game.board? chosen = some board := (board?_of_boards hboards).trans hboard
  have hdeclares : ¬ (board.hexes = none ∧ board.copy = none) := by
    rintro ⟨-, hnone⟩
    cases hcopy.symm.trans hnone
  have hkept : Hex.strike [] = id := funext fun hex => Hex.strike_eq_self fun _ _ => List.not_mem_nil
  rw [resolveHexes_of_board? hchosen hdeclares, gatheredHexes_of_copy hboards hboard hcopy hother hown,
    removedCoords_of_board? hchosen, hremoved, hkept, List.map_id_fun]
  cases resolveCopies ((game.ownHexes copy.toNat).map (Hex.tag copy.toNat)) <;> rfl

/-- Where nothing is taken from a third map, all hexes are the declared ones. -/
theorem gatheredHexes_of_takenHexes_nil {variation : Nat} (htaken : game.takenHexes variation = []) :
    game.gatheredHexes variation =
      (game.ownHexes variation).map (Hex.tag (game.shownVariation variation)) := by
  rw [gatheredHexes, htaken, List.map_nil, List.nil_append]

/-- A variation without hexes and strikes of its own has the hexes that the map it copies declares,
with all their coordinates and with copies followed among them alone. So it has the hexes of the
variation that it copies exactly if that one takes none from a third map and strikes none of the
coordinates that it declares. -/
theorem resolveHexes_copying (hboards : game.boards = some (.variations boards))
    (hboard : boards[chosen]? = some board) (hcopy : board.copy = some copy)
    (hother : copy.toNat ≠ chosen) (hown : board.hexes.getD [] = []) (hremoved : board.removed = [])
    (hresolved : game.resolveHexes copy.toNat = .ok hexes) :
    ∃ copied, game.resolveHexes chosen = .ok copied ∧
      resolveCopies ((game.ownHexes copy.toNat).map (Hex.tag copy.toNat)) = .ok copied ∧
      copied.map Hex.coords = (game.ownHexes copy.toNat).map Hex.coords ∧
      hexes.map Hex.coords = ((game.takenHexes copy.toNat ++ copied).map Hex.coords).map
        (List.filter (· ∉ game.removedCoords copy.toNat)) ∧
      (game.takenHexes copy.toNat = [] →
        hexes = copied.map (Hex.strike (game.removedCoords copy.toNat))) ∧
      (hexes.map Hex.unmarked = copied.map Hex.unmarked ↔
        game.takenHexes copy.toNat = [] ∧ ∀ hex ∈ game.ownHexes copy.toNat,
          ∀ coord ∈ hex.coords, coord ∉ game.removedCoords copy.toNat) := by
  obtain ⟨copied, hcopied, hcoords⟩ :=
    Copies.exists_resolveCopies ((game.ownHexes copy.toNat).map (Hex.tag copy.toNat))
  have hdeclared : copied.map Hex.coords = (game.ownHexes copy.toNat).map Hex.coords := by
    rw [hcoords, List.map_map]
    rfl
  have hall : hexes.map Hex.coords = ((game.takenHexes copy.toNat ++ copied).map Hex.coords).map
      (List.filter (· ∉ game.removedCoords copy.toNat)) := by
    rw [coords_of_resolveHexes hresolved, List.map_append, ← hdeclared, ← List.map_append]
  have hstruck : game.takenHexes copy.toNat = [] →
      hexes = copied.map (Hex.strike (game.removedCoords copy.toNat)) := by
    intro htaken
    obtain ⟨passed, hpassed, rfl⟩ := resolveHexes_eq_ok hresolved
    rw [gatheredHexes_of_takenHexes_nil htaken, shownVariation_of_boards hboards] at hpassed
    rw [Except.ok.inj (hpassed.symm.trans hcopied)]
  refine ⟨copied, (resolveHexes_of_copy hboards hboard hcopy hother hown hremoved).trans hcopied,
    hcopied, hdeclared, hall, hstruck, ?_⟩
  constructor
  · intro hsame
    -- Equal lists are equally long, which leaves no room for hexes of a third map.
    have htaken : game.takenHexes copy.toNat = [] := by
      have hlength := congrArg List.length hall
      have hsameLength := congrArg List.length hsame
      simp only [List.length_map, List.length_append] at hlength hsameLength
      exact List.length_eq_zero_iff.mp (by omega)
    rw [hstruck htaken] at hsame
    exact ⟨htaken, (Hex.map_unmarked_strike_eq_iff hdeclared).mp hsame⟩
  · rintro ⟨htaken, hnone⟩
    rw [hstruck htaken]
    exact (Hex.map_unmarked_strike_eq_iff hdeclared).mpr hnone

/-- Two of these maps add nothing to the one that they copy. The one that the third copies takes a hex
from the first, and the one that the last copies strikes a coordinate. -/
def fiveMaps : Game where
  boards := some (.variations
    [{ hexes := some [{ coords := ["A1"] }] },
      { hexes := some [{ coords := ["B1"] }], copy := some 0 },
      { copy := some 1 },
      { hexes := some [{ coords := ["C1", "C2"] }], removed := ["C2"] },
      { copy := some 3 }])

theorem resolveHexes_copying_fiveMaps :
    ∃ hexes copied, fiveMaps.resolveHexes 1 = .ok hexes ∧ fiveMaps.resolveHexes 2 = .ok copied ∧
      hexes.map Hex.coords = [["A1"], ["B1"]] ∧ copied.map Hex.coords = [["B1"]] ∧
      hexes.map Hex.unmarked ≠ copied.map Hex.unmarked := by
  have hresolved : fiveMaps.resolveHexes 1 = .ok _ :=
    resolveHexes_of_plain rfl (by simp) (by decide)
  have hboards : fiveMaps.boards = some (.variations fiveMaps.maps) := rfl
  have hboard : fiveMaps.maps[2]? = some { copy := some 1 } := rfl
  obtain ⟨copied, hcopied, -, hown, hall, -, hsame⟩ :=
    resolveHexes_copying hboards hboard rfl (by decide) rfl rfl hresolved
  refine ⟨_, copied, hresolved, hcopied, ?_, hown.trans rfl, fun h => ?_⟩
  · rw [hall, List.map_append, hown]
    rfl
  · cases (hsame.mp h).1

theorem not_resolveHexes_same_fiveMaps :
    fiveMaps.resolveHexes 1 =
        .ok [{ coords := ["A1"], variation := some 0 }, { coords := ["B1"], variation := some 1 }] ∧
      fiveMaps.resolveHexes 2 = .ok [{ coords := ["B1"], variation := some 1 }] ∧
      fiveMaps.resolveHexes 3 = .ok [{ coords := ["C1"], variation := some 3 }] ∧
      fiveMaps.resolveHexes 4 = .ok [{ coords := ["C1", "C2"], variation := some 3 }] := by
  refine ⟨?_, ?_, ?_, ?_⟩
  · exact (resolveHexes_of_plain rfl (by simp) (by decide)).trans rfl
  · exact (resolveHexes_of_plain rfl (by simp) (by decide)).trans rfl
  · exact (resolveHexes_of_plain rfl (by simp) (by decide)).trans rfl
  · exact (resolveHexes_of_plain rfl (by simp) (by decide)).trans rfl

end Game

/-! ### Coordinates that are declared again -/

/-- A map takes nothing or all hexes of another. -/
theorem Board.takenHexes_cases (boards : List Board) (selected : Nat) (board : Board) :
    board.takenHexes boards selected = [] ∨
      ∃ base ∈ boards, board.takenHexes boards selected = base.hexes.getD [] := by
  unfold Board.takenHexes
  cases board.copy with
  | none => exact .inl rfl
  | some copy =>
      dsimp only
      by_cases hself : copy.toNat = selected
      · exact .inl (if_pos hself)
      · rw [if_neg hself]
        cases hbase : boards[copy.toNat]? with
        | none => exact .inl rfl
        | some base => exact .inr ⟨base, List.mem_of_getElem? hbase, rfl⟩

namespace Game

/-- The coordinates of the hexes that a variation takes from another map, as far as it does not strike
them. -/
def inheritedCoords (game : Game) (variation : Nat) : List String :=
  ((game.takenHexes variation).flatMap Hex.coords).filter (· ∉ game.removedCoords variation)

/-- The coordinates that a variation declares itself and does not strike. -/
def ownCoords (game : Game) (variation : Nat) : List String :=
  ((game.ownHexes variation).flatMap Hex.coords).filter (· ∉ game.removedCoords variation)

variable {game : Game} {variation : Nat} {hexes : List Hex}

section Once

variable (honce : ∀ board ∈ game.maps, ((board.hexes.getD []).flatMap Hex.coords).Nodup)

include honce

theorem nodup_inheritedCoords : (game.inheritedCoords variation).Nodup := by
  apply List.Nodup.filter
  cases hboard : game.board? variation with
  | none => simp [takenHexes, hboard]
  | some board =>
      rw [takenHexes_of_board? hboard]
      rcases board.takenHexes_cases game.maps (game.shownVariation variation) with
        hnone | ⟨base, hbase, htaken⟩
      · rw [hnone]
        exact List.nodup_nil
      · rw [htaken]
        exact honce base hbase

theorem nodup_ownCoords : (game.ownCoords variation).Nodup := by
  apply List.Nodup.filter
  cases hboard : game.board? variation with
  | none => simp [ownHexes, hboard]
  | some board =>
      rw [ownHexes_of_board? hboard]
      exact honce board (List.mem_of_getElem? hboard)

end Once

/-- The hexes of a variation in two parts, each with what is left of the coordinates declared. -/
theorem exists_append_of_resolveHexes (h : game.resolveHexes variation = .ok hexes) :
    ∃ inherited own, hexes = inherited ++ own ∧
      inherited.map Hex.coords = ((game.takenHexes variation).map Hex.coords).map
        (List.filter (· ∉ game.removedCoords variation)) ∧
      own.map Hex.coords = ((game.ownHexes variation).map Hex.coords).map
        (List.filter (· ∉ game.removedCoords variation)) := by
  have hcoords := coords_of_resolveHexes h
  rw [List.map_append, List.map_append] at hcoords
  exact List.map_eq_append_iff.mp hcoords

theorem flatMap_coords_eq_filter {struck declared : List Hex} {removed : List String}
    (h : struck.map Hex.coords = (declared.map Hex.coords).map (List.filter (· ∉ removed))) :
    struck.flatMap Hex.coords = (declared.flatMap Hex.coords).filter (· ∉ removed) := by
  rw [List.flatMap_def, List.flatMap_def, h, List.filter_flatten]

/-- If no map lists a coordinate twice, the hex table of a variation has a coordinate once for the hexes
that it takes from another map and once for its own, as far as they list it and it is not struck. Each
time it stands where the hex that has it is put, so a coordinate that both list stands with both. -/
theorem compile_count_coords {tables : Tables} {catalog : Option Catalog} {compiled : CompiledGame}
    (hcompile : game.compile tables catalog variation = .ok compiled)
    (honce : ∀ board ∈ game.maps, ((board.hexes.getD []).flatMap Hex.coords).Nodup) :
    (∀ coord, compiled.hexes.coords.count coord =
        (if coord ∈ game.inheritedCoords variation then 1 else 0) +
          if coord ∈ game.ownCoords variation then 1 else 0) ∧
      ∃ inherited own, game.resolveHexes variation = .ok (inherited ++ own) ∧
        inherited.length = (game.takenHexes variation).length ∧
        inherited.flatMap Hex.coords = game.inheritedCoords variation ∧
        own.flatMap Hex.coords = game.ownCoords variation ∧
        ∀ hex ∈ inherited ++ own, ∀ coord ∈ hex.coords,
          compiled.hexes.Shows (hex.bucket tables) (hex.encode tables game.layout) coord := by
  obtain ⟨hexes, hparts⟩ := Game.compile_eq_ok hcompile
  obtain ⟨inherited, own, rfl, hinherited, hown⟩ := exists_append_of_resolveHexes hparts.resolved
  have hinheritedCoords : inherited.flatMap Hex.coords = game.inheritedCoords variation :=
    flatMap_coords_eq_filter hinherited
  have hownCoords : own.flatMap Hex.coords = game.ownCoords variation :=
    flatMap_coords_eq_filter hown
  have hlength : inherited.length = (game.takenHexes variation).length := by
    simpa using congrArg List.length hinherited
  refine ⟨fun coord => ?_, inherited, own, hparts.resolved, hlength, hinheritedCoords, hownCoords, ?_⟩
  · rw [hparts.lists.count_coords, List.flatMap_append, List.count_append, hinheritedCoords, hownCoords,
      (nodup_inheritedCoords honce).count, (nodup_ownCoords honce).count]
  · intro hex hhex coord hcoord
    exact hparts.lists.shows_iff.mpr ⟨hex, hhex, hcoord, rfl, rfl⟩

/-- The second map strikes a coordinate of the first and declares another one again, in yellow. -/
def repaintedMap : Game where
  info := some { title := some "18Repainted" }
  boards := some (.variations
    [{ hexes := some [{ color := some "plain", coords := ["A1", "A3", "A5"] }] },
      { hexes := some [{ color := some "yellow", coords := ["A1"] }]
        copy := some 0
        removed := ["A3"] }])

theorem resolveHexes_repaintedMap : repaintedMap.resolveHexes 1 =
    .ok [{ color := some "plain", coords := ["A1", "A5"], variation := some 0 },
      { color := some "yellow", coords := ["A1"], variation := some 1 }] :=
  (resolveHexes_of_plain rfl (by simp) (by decide)).trans rfl

theorem nodup_repaintedMap :
    ∀ board ∈ repaintedMap.maps, ((board.hexes.getD []).flatMap Hex.coords).Nodup := by
  decide

theorem compile_count_coords_repaintedMap :
    ∃ compiled, repaintedMap.compile .standard none 1 = .ok compiled ∧
      compiled.hexes.coords.count "A1" = 2 ∧ compiled.hexes.coords.count "A3" = 0 ∧
      compiled.hexes.coords.count "A5" = 1 := by
  have hcompiled : ∃ compiled, repaintedMap.compile .standard none 1 = .ok compiled := by
    rw [Game.compile, resolveHexes_repaintedMap]
    exact ⟨_, rfl⟩
  obtain ⟨compiled, hcompiled⟩ := hcompiled
  obtain ⟨hcount, -⟩ := compile_count_coords hcompiled nodup_repaintedMap
  exact ⟨compiled, hcompiled, (hcount "A1").trans (by decide), (hcount "A3").trans (by decide),
    (hcount "A5").trans (by decide)⟩

/-- No map lists a coordinate twice, and yet the table has one with the hex taken and with the own hex. -/
theorem compile_lists_both_repaintedMap :
    (∀ board ∈ repaintedMap.maps, ((board.hexes.getD []).flatMap Hex.coords).Nodup) ∧
      ∃ compiled, repaintedMap.compile .standard none 1 = .ok compiled ∧
        compiled.hexes = [("white", [("", ["A1", "A5"])]), ("yellow", [("", ["A1"])])] := by
  refine ⟨nodup_repaintedMap, ?_⟩
  rw [Game.compile, resolveHexes_repaintedMap]
  exact ⟨_, rfl, by decide⟩

end Game

end Rail18
