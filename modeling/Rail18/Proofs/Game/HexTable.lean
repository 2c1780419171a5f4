import Rail18.Proofs.Game.Board
import Rail18.Proofs.Game.Compiled
import Rail18.Proofs.Grouping

/-!
# What the hex table lists

The table of a board, which is filled hex by hex, holds each coordinate as often as the hexes do, under
the color and the encoding of the hex that it belongs to.
-/

namespace Rail18

variable (tables : Tables) (layout : Layout) (hexes : List Hex)

/-- A table lists hexes: colors and, for each color, encodings stand once and in the order of the first
hex with coordinates that has them, and an entry has the coordinates of the hexes with its color and
its encoding, in the order of the hexes. -/
structure HexTable.Lists (table : HexTable) : Prop where
  colors : table.map Prod.fst = ((hexes.filter (·.coords ≠ [])).map (Hex.bucket tables)).eraseDups
  colors_nodup : (table.map Prod.fst).Nodup
  group_ne_nil : ∀ color group, (color, group) ∈ table → group ≠ []
  encodings : ∀ color group, (color, group) ∈ table → group.map Prod.fst =
    ((hexes.filter fun h => h.coords ≠ [] ∧ h.bucket tables = color).map
      (Hex.encode tables layout)).eraseDups
  encodings_nodup : ∀ color group, (color, group) ∈ table → (group.map Prod.fst).Nodup
  coords_ne_nil : ∀ color group, (color, group) ∈ table → ∀ encoding coords,
    (encoding, coords) ∈ group → coords ≠ []
  coords : ∀ color group, (color, group) ∈ table → ∀ encoding coords, (encoding, coords) ∈ group →
    coords = (hexes.filter fun h =>
      h.bucket tables = color ∧ h.encode tables layout = encoding).flatMap Hex.coords
  perm : (table.flatMap fun group => group.2.flatMap Prod.snd).Perm (hexes.flatMap Hex.coords)

/-- The entries of hexes of one color: the coordinates by encoding. -/
def gatherEntries : List Hex → List (String × List String) :=
  gather (Hex.encode tables layout) (List.flatMap Hex.coords)

/-- Filling the table hex by hex gathers the hexes with coordinates twice, by color and by encoding. -/
theorem hexTable_eq_gather :
    hexTable tables layout hexes =
      gather (Hex.bucket tables) (gatherEntries tables layout) (hexes.filter (·.coords ≠ [])) := by
  have hplaced : Hex.isPlaced = fun h => decide (h.coords ≠ []) := by
    funext h
    cases hcoords : h.coords with
    | nil => simp [Hex.isPlaced, hcoords]
    | cons coord rest => simp [Hex.isPlaced, hcoords]
  have hentries : (fun own : List Hex => own.foldl (fun group h =>
      changeGroup (h.encode tables layout) [] (· ++ h.coords) group) []) =
        gatherEntries tables layout := by
    funext own
    refine (groupBy_eq_gather (Hex.encode tables layout) [] (fun h group => group ++ h.coords) own).trans ?_
    rw [gatherEntries]
    congr 1
    funext own
    exact List.flatMap_eq_foldl.symm
  rw [hexTable, groupBy_eq_gather, hentries, hplaced]

variable {tables layout hexes}

theorem filter_filter_and (p q : Hex → Prop) [DecidablePred p] [DecidablePred q] :
    (hexes.filter (p ·)).filter (q ·) = hexes.filter fun h => p h ∧ q h := by
  rw [List.filter_filter]
  refine List.filter_congr fun h _ => ?_
  rw [Bool.and_comm, Bool.decide_and]

theorem flatMap_coords_filter_placed (p : Hex → Prop) [DecidablePred p] :
    (hexes.filter fun h => h.coords ≠ [] ∧ p h).flatMap Hex.coords =
      (hexes.filter (p ·)).flatMap Hex.coords := by
  induction hexes with
  | nil => rfl
  | cons h rest ih =>
      by_cases hplaced : h.coords = []
      · by_cases hp : p h
        · simp [hplaced, hp, ← ih]
        · simp [hp, ← ih]
      · by_cases hp : p h
        · simp [hplaced, hp, ← ih]
        · simp [hp, ← ih]

theorem gatherEntries_perm (own : List Hex) :
    ((gatherEntries tables layout own).flatMap Prod.snd).Perm (own.flatMap Hex.coords) :=
  flatMap_gather_perm id Hex.coords fun _ => List.Perm.refl _

section Entries

variable {color encoding : String} {group : List (String × List String)} {coords : List String}

/-- A group is made of the hexes with coordinates that have its color, of which there are some. -/
theorem group_of_mem (h : (color, group) ∈ hexTable tables layout hexes) :
    (∃ own ∈ hexes, own.coords ≠ [] ∧ own.bucket tables = color) ∧
      group = gatherEntries tables layout
        (hexes.filter fun h => h.coords ≠ [] ∧ h.bucket tables = color) := by
  rw [hexTable_eq_gather] at h
  obtain ⟨⟨own, hplaced, hcolor⟩, hgroup⟩ := mem_gather h
  obtain ⟨hown, hcoords⟩ := List.mem_filter.mp hplaced
  rw [filter_filter_and] at hgroup
  exact ⟨⟨own, hown, of_decide_eq_true hcoords, hcolor⟩, hgroup⟩

theorem coords_of_mem (hgroup : (color, group) ∈ hexTable tables layout hexes)
    (hentry : (encoding, coords) ∈ group) :
    coords ≠ [] ∧ coords = (hexes.filter fun h =>
      h.bucket tables = color ∧ h.encode tables layout = encoding).flatMap Hex.coords := by
  obtain ⟨-, rfl⟩ := group_of_mem hgroup
  obtain ⟨⟨own, hown, hencoding⟩, hcoords⟩ := mem_gather hentry
  obtain ⟨hown, hplaced⟩ := List.mem_filter.mp hown
  obtain ⟨hplaced, hcolor⟩ := of_decide_eq_true hplaced
  rw [filter_filter_and] at hcoords
  simp only [and_assoc] at hcoords
  rw [flatMap_coords_filter_placed] at hcoords
  refine ⟨?_, hcoords⟩
  obtain ⟨coord, hcoord⟩ := List.exists_mem_of_ne_nil _ hplaced
  rw [hcoords]
  exact List.ne_nil_of_mem (List.mem_flatMap.mpr
    ⟨own, List.mem_filter.mpr ⟨hown, decide_eq_true ⟨hcolor, hencoding⟩⟩, hcoord⟩)

end Entries

/-- The table of a board lists its hexes. -/
theorem hexTable_lists : HexTable.Lists tables layout hexes (hexTable tables layout hexes) where
  colors := by rw [hexTable_eq_gather, map_fst_gather]
  colors_nodup := by
    rw [hexTable_eq_gather, map_fst_gather]
    exact nodup_eraseDups _
  group_ne_nil := by
    intro color group hmem
    obtain ⟨⟨own, hown, hplaced⟩, rfl⟩ := group_of_mem hmem
    exact gather_ne_nil (List.ne_nil_of_mem (List.mem_filter.mpr ⟨hown, decide_eq_true hplaced⟩))
  encodings := by
    intro color group hmem
    obtain ⟨-, rfl⟩ := group_of_mem hmem
    exact map_fst_gather
  encodings_nodup := by
    intro color group hmem
    obtain ⟨-, rfl⟩ := group_of_mem hmem
    rw [gatherEntries, map_fst_gather]
    exact nodup_eraseDups _
  coords_ne_nil := fun _ _ hmem _ _ hentry => (coords_of_mem hmem hentry).1
  coords := fun _ _ hmem _ _ hentry => (coords_of_mem hmem hentry).2
  perm := by
    rw [hexTable_eq_gather]
    refine (flatMap_gather_perm (List.flatMap Prod.snd) Hex.coords gatherEntries_perm).trans ?_
    have hplaced : (hexes.filter fun h => h.coords ≠ [] ∧ True).flatMap Hex.coords =
        (hexes.filter fun _ => True).flatMap Hex.coords := flatMap_coords_filter_placed _
    simp only [and_true, decide_true, List.filter_true] at hplaced
    exact List.Perm.of_eq hplaced

/-! ### Coordinates in a table -/

namespace HexTable

/-- The coordinates of all entries. -/
def coords (table : HexTable) : List String := table.flatMap fun group => group.2.flatMap Prod.snd

/-- The entry of a color and an encoding has a coordinate. -/
def Shows (table : HexTable) (color encoding coord : String) : Prop :=
  ∃ group entry, (color, group) ∈ table ∧ (encoding, entry) ∈ group ∧ coord ∈ entry

namespace Lists

variable {table : HexTable} {color encoding coord : String}

theorem count_coords (h : Lists tables layout hexes table) (coord : String) :
    table.coords.count coord = (hexes.flatMap Hex.coords).count coord :=
  h.perm.count_eq coord

theorem mem_coords (h : Lists tables layout hexes table) :
    coord ∈ table.coords ↔ ∃ hex ∈ hexes, coord ∈ hex.coords :=
  h.perm.mem_iff.trans List.mem_flatMap

/-- A hex with coordinates has an entry, which lists the coordinates of all hexes with its color and its
encoding. -/
theorem exists_entry (h : Lists tables layout hexes table) {hex : Hex} (hhex : hex ∈ hexes)
    (hplaced : hex.coords ≠ []) :
    ∃ group entry, (hex.bucket tables, group) ∈ table ∧ (hex.encode tables layout, entry) ∈ group ∧
      ∀ other ∈ hexes, other.bucket tables = hex.bucket tables →
        other.encode tables layout = hex.encode tables layout → other.coords ⊆ entry := by
  have hcolor : hex.bucket tables ∈ table.map Prod.fst := by
    rw [h.colors, List.mem_eraseDups]
    exact List.mem_map_of_mem (List.mem_filter.mpr ⟨hhex, decide_eq_true hplaced⟩)
  obtain ⟨⟨color, group⟩, hgroup, hcolor⟩ := List.mem_map.mp hcolor
  obtain rfl : color = hex.bucket tables := hcolor
  have hencoding : hex.encode tables layout ∈ group.map Prod.fst := by
    rw [h.encodings _ group hgroup, List.mem_eraseDups]
    exact List.mem_map_of_mem (List.mem_filter.mpr ⟨hhex, decide_eq_true ⟨hplaced, rfl⟩⟩)
  obtain ⟨⟨encoding, entry⟩, hentry, hencoding⟩ := List.mem_map.mp hencoding
  obtain rfl : encoding = hex.encode tables layout := hencoding
  refine ⟨group, entry, hgroup, hentry, fun other hother hcolor hencoding coord hcoord => ?_⟩
  rw [h.coords _ group hgroup _ entry hentry]
  exact List.mem_flatMap.mpr
    ⟨other, List.mem_filter.mpr ⟨hother, decide_eq_true ⟨hcolor, hencoding⟩⟩, hcoord⟩

/-- A coordinate stands where a hex that has it is put. -/
theorem shows_iff (h : Lists tables layout hexes table) :
    table.Shows color encoding coord ↔
      ∃ hex ∈ hexes, coord ∈ hex.coords ∧ hex.bucket tables = color ∧
        hex.encode tables layout = encoding := by
  constructor
  · rintro ⟨group, entry, hgroup, hentry, hcoord⟩
    rw [h.coords color group hgroup encoding entry hentry] at hcoord
    obtain ⟨hex, hhex, hcoord⟩ := List.mem_flatMap.mp hcoord
    obtain ⟨hhex, hplace⟩ := List.mem_filter.mp hhex
    obtain ⟨hcolor, hencoding⟩ := of_decide_eq_true hplace
    exact ⟨hex, hhex, hcoord, hcolor, hencoding⟩
  · rintro ⟨hex, hhex, hcoord, rfl, rfl⟩
    obtain ⟨group, entry, hgroup, hentry, hall⟩ := h.exists_entry hhex (List.ne_nil_of_mem hcoord)
    exact ⟨group, entry, hgroup, hentry, hall hex hhex rfl rfl hcoord⟩

end Lists

end HexTable

theorem Game.CompilesTo.lists {catalog : Option Catalog} {game : Game} {variation : Nat}
    {compiled : CompiledGame} (h : game.CompilesTo tables catalog variation hexes compiled) :
    HexTable.Lists tables game.layout hexes compiled.hexes := by
  rw [h.hexes]
  exact hexTable_lists

/-- The hex table of a game that compiles lists the hexes of the variation. -/
theorem Game.compile_hexes_lists {catalog : Option Catalog} {game : Game} {variation : Nat}
    {compiled : CompiledGame} (h : game.compile tables catalog variation = .ok compiled) :
    ∃ hexes, game.resolveHexes variation = .ok hexes ∧
      HexTable.Lists tables game.layout hexes compiled.hexes := by
  obtain ⟨hexes, hparts⟩ := Game.compile_eq_ok h
  refine ⟨hexes, hparts.resolved, ?_⟩
  rw [hparts.hexes]
  exact hexTable_lists

def smallMap : Board where
  hexes := some [{ color := some "plain", coords := ["A1", "A3"] }, { coords := ["B2"], labels := ["OO"] }]

theorem Game.compile_hexes_lists_smallMap :
    let game : Game := { info := some { title := some "18Small" }, boards := some (.single smallMap) }
    ∃ compiled, game.compile .standard none 0 = .ok compiled ∧
      ∃ hexes, game.resolveHexes 0 = .ok hexes ∧
        HexTable.Lists .standard .pointy hexes compiled.hexes := by
  intro game
  have hboards : game.boards = some (.single smallMap) := rfl
  have hboard : (Boards.single smallMap).list[Boards.selected 0 (.single smallMap)]? = some smallMap := rfl
  have hdeclares : ¬ (smallMap.hexes = none ∧ smallMap.copy = none) := by simp [smallMap]
  obtain ⟨hexes, hresolved, -⟩ := Game.exists_resolveHexes hboards hboard hdeclares
  have hcompiled : ∃ compiled, game.compile .standard none 0 = .ok compiled := by
    rw [Game.compile, hresolved]
    exact ⟨_, rfl⟩
  obtain ⟨compiled, hcompiled⟩ := hcompiled
  exact ⟨compiled, hcompiled, Game.compile_hexes_lists hcompiled⟩

end Rail18
