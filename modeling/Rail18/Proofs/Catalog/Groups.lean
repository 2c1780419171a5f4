import Mathlib.Data.List.Forall2
import Mathlib.Data.String.Basic
import Mathlib.Order.Bounds.Defs
import Rail18.Catalog
import Rail18.Proofs.Grouping

/-!
# The groups of a catalog

A compiled catalog shows the tiles of a catalog by their colors, each tile once. Since a catalog is in the
order of its ids, so are the tiles of each group, and so are the groups by their first tiles.
-/

namespace Rail18

def CatalogColor.ids (group : CatalogColor) : List String := group.tiles.map CatalogTile.id

namespace Catalog

variable (tables : Tables) (layout : Layout) (catalog : Catalog)

/-- The colors of the tiles, each once, in the order of the first tiles that have them. -/
def buckets : List String := (catalog.entries.map fun entry => entry.2.bucket tables).eraseDups

/-- The tiles of a color, in the order of their ids. -/
def tilesOf (color : String) : List CatalogTile :=
  (catalog.entries.filter (·.2.bucket tables = color)).map (compileTile tables layout)

def groupOf (color : String) : CatalogColor := ⟨colorModule color, catalog.tilesOf tables layout color⟩

theorem groups_eq :
    catalog.groups tables layout =
      (catalog.buckets tables).map fun color => (color, catalog.tilesOf tables layout color) := by
  have htiles (own : List (String × Hex)) :
      own.foldl (fun tiles entry => tiles ++ [compileTile tables layout entry]) [] =
        own.map (compileTile tables layout) := by
    rw [List.map_eq_flatMap, List.flatMap_eq_foldl]
  rw [groups, groupBy_eq_gather, gather]
  simp only [htiles]
  rfl

theorem colors_compile :
    (catalog.compile tables layout).colors =
      (catalog.buckets tables).map (catalog.groupOf tables layout) := by
  change (catalog.groups tables layout).map _ = _
  rw [groups_eq, List.map_map]
  rfl

theorem symbols_compile :
    (catalog.compile tables layout).symbols =
      " ".intercalate ((catalog.buckets tables).map colorSymbol) := by
  change " ".intercalate ((catalog.groups tables layout).map _) = _
  rw [groups_eq, List.map_map]
  rfl

variable {tables layout catalog}

/-! ### Tiles of a group -/

theorem ids_groupOf (color : String) :
    (catalog.groupOf tables layout color).ids =
      (catalog.entries.filter (·.2.bucket tables = color)).map Prod.fst := by
  change ((catalog.entries.filter _).map _).map _ = _
  rw [List.map_map]
  rfl

theorem pairwise_entries : catalog.entries.Pairwise fun a b => a.1 < b.1 :=
  catalog.ascending.imp compare_lt_iff_lt.mp

theorem eq_of_fst_eq {a b : String × Hex} (ha : a ∈ catalog.entries) (hb : b ∈ catalog.entries)
    (h : a.1 = b.1) : a = b := by
  have hkeys : (catalog.entries.map Prod.fst).Nodup :=
    (List.pairwise_map.mpr pairwise_entries).imp ne_of_lt
  exact List.inj_on_of_nodup_map hkeys ha hb h

/-- A tile is in the group of its color and in no other. -/
theorem mem_ids_groupOf {entry : String × Hex} (hentry : entry ∈ catalog.entries) {color : String} :
    entry.1 ∈ (catalog.groupOf tables layout color).ids ↔ entry.2.bucket tables = color := by
  rw [ids_groupOf, List.mem_map]
  constructor
  · rintro ⟨other, hother, hsame⟩
    obtain ⟨hother, hcolor⟩ := List.mem_filter.mp hother
    obtain rfl := eq_of_fst_eq hother hentry hsame
    exact of_decide_eq_true hcolor
  · intro hcolor
    exact ⟨entry, List.mem_filter.mpr ⟨hentry, decide_eq_true hcolor⟩, rfl⟩

theorem bucket_mem_buckets {entry : String × Hex} (hentry : entry ∈ catalog.entries) :
    entry.2.bucket tables ∈ catalog.buckets tables :=
  List.mem_eraseDups.mpr (List.mem_map_of_mem hentry)

theorem pairwise_ids (color : String) :
    (catalog.groupOf tables layout color).ids.Pairwise (· < ·) := by
  rw [ids_groupOf]
  exact List.pairwise_map.mpr (pairwise_entries.filter _)

/-- The smallest id of a group is that of the first tile of the color. -/
theorem isLeast_ids {first : String × Hex}
    (hfirst : (catalog.entries.filter (·.2.bucket tables = first.2.bucket tables)).head? = some first) :
    IsLeast {id | id ∈ (catalog.groupOf tables layout (first.2.bucket tables)).ids} first.1 := by
  obtain ⟨rest, hown⟩ := List.head?_eq_some_iff.mp hfirst
  have hids : (catalog.groupOf tables layout (first.2.bucket tables)).ids =
      first.1 :: rest.map Prod.fst := by
    rw [ids_groupOf, hown, List.map_cons]
  have hpairwise : (first.1 :: rest.map Prod.fst).Pairwise (· < ·) := hids ▸ pairwise_ids _
  rw [hids]
  refine ⟨List.mem_cons_self, fun id hid => ?_⟩
  rcases List.mem_cons.mp hid with rfl | hid
  · exact le_rfl
  · exact (List.rel_of_pairwise_cons hpairwise hid).le

/-- The groups come in the order of their smallest ids. -/
theorem pairwise_colors :
    (catalog.compile tables layout).colors.Pairwise fun first second =>
      ∃ a b, IsLeast {id | id ∈ first.ids} a ∧ IsLeast {id | id ∈ second.ids} b ∧ a < b := by
  -- The first tiles of the colors are a part of the catalog, and in its order.
  obtain ⟨firsts, hsublist, hbuckets, hheads⟩ :=
    exists_firsts (fun entry : String × Hex => entry.2.bucket tables) catalog.entries
  have hbuckets : catalog.buckets tables = firsts.map fun entry => entry.2.bucket tables := hbuckets.symm
  rw [colors_compile, hbuckets, List.map_map, List.pairwise_map]
  refine (pairwise_entries.sublist hsublist).imp_of_mem fun {a b} ha hb hlt => ?_
  exact ⟨a.1, b.1, isLeast_ids (hheads a ha), isLeast_ids (hheads b hb), hlt⟩

end Catalog

/-- A compiled catalog shows the tiles of a catalog, in a group for each of some colors. -/
structure CompiledCatalog.Shows (tables : Tables) (layout : Layout) (catalog : Catalog)
    (colors : List String) (compiled : CompiledCatalog) : Prop where
  colors_nodup : colors.Nodup
  groups : List.Forall₂ (fun color group => group.name = colorModule color ∧ group.tiles ≠ [] ∧
    ∀ tile, tile ∈ group.tiles ↔ ∃ id hex, (id, hex) ∈ catalog.entries ∧ hex.bucket tables = color ∧
      tile = ⟨id, hex.encode tables layout, hex.broken⟩) colors compiled.colors
  symbols : compiled.symbols = " ".intercalate (colors.map colorSymbol)
  perm : (compiled.colors.flatMap CatalogColor.tiles).Perm
    (catalog.entries.map fun entry => ⟨entry.1, entry.2.encode tables layout, entry.2.broken⟩)
  once : ∀ entry ∈ catalog.entries,
    ∃! place : Fin compiled.colors.length, entry.1 ∈ (compiled.colors.get place).ids
  together : ∀ a ∈ catalog.entries, ∀ b ∈ catalog.entries,
    (∃ group ∈ compiled.colors, a.1 ∈ group.ids ∧ b.1 ∈ group.ids) ↔
      a.2.bucket tables = b.2.bucket tables
  ids_ascending : ∀ group ∈ compiled.colors, group.ids.Pairwise (· < ·)
  groups_ascending : compiled.colors.Pairwise fun first second =>
    ∃ a b, IsLeast {id | id ∈ first.ids} a ∧ IsLeast {id | id ∈ second.ids} b ∧ a < b

namespace Catalog

variable {tables : Tables} {layout : Layout} {catalog : Catalog}

theorem mem_tilesOf {color : String} {tile : CatalogTile} :
    tile ∈ catalog.tilesOf tables layout color ↔
      ∃ id hex, (id, hex) ∈ catalog.entries ∧ hex.bucket tables = color ∧
        tile = ⟨id, hex.encode tables layout, hex.broken⟩ := by
  rw [tilesOf, List.mem_map]
  constructor
  · rintro ⟨⟨id, hex⟩, hentry, rfl⟩
    obtain ⟨hentry, hcolor⟩ := List.mem_filter.mp hentry
    exact ⟨id, hex, hentry, of_decide_eq_true hcolor, rfl⟩
  · rintro ⟨id, hex, hentry, hcolor, rfl⟩
    exact ⟨(id, hex), List.mem_filter.mpr ⟨hentry, decide_eq_true hcolor⟩, rfl⟩

theorem tilesOf_ne_nil {color : String} (hcolor : color ∈ catalog.buckets tables) :
    catalog.tilesOf tables layout color ≠ [] := by
  obtain ⟨entry, hentry, rfl⟩ := List.mem_map.mp (List.mem_eraseDups.mp hcolor)
  exact List.ne_nil_of_mem (mem_tilesOf.mpr ⟨entry.1, entry.2, hentry, rfl, rfl⟩)

theorem exists_unique_place {entry : String × Hex} (hentry : entry ∈ catalog.entries) :
    ∃! place : Fin (catalog.compile tables layout).colors.length,
      entry.1 ∈ ((catalog.compile tables layout).colors.get place).ids := by
  rw [colors_compile]
  -- No color occurs twice, so that the place of a group is told by its color.
  have hlength : ((catalog.buckets tables).map (catalog.groupOf tables layout)).length =
      (catalog.buckets tables).length := List.length_map _
  have hmem (place : Fin ((catalog.buckets tables).map (catalog.groupOf tables layout)).length) :
      entry.1 ∈ (((catalog.buckets tables).map (catalog.groupOf tables layout)).get place).ids ↔
        (catalog.buckets tables).get (place.cast hlength) = entry.2.bucket tables := by
    rw [List.get_eq_getElem, List.getElem_map, mem_ids_groupOf hentry]
    exact eq_comm
  obtain ⟨index, hcolor⟩ := List.mem_iff_get.mp (bucket_mem_buckets hentry)
  refine ⟨index.cast hlength.symm, (hmem _).mpr hcolor, fun place hplace => ?_⟩
  have hsame : place.cast hlength = index :=
    (nodup_eraseDups _).get_inj_iff.mp (((hmem place).mp hplace).trans hcolor.symm)
  rw [← hsame]
  rfl

theorem exists_common_group {a b : String × Hex} (ha : a ∈ catalog.entries) (hb : b ∈ catalog.entries) :
    (∃ group ∈ (catalog.compile tables layout).colors, a.1 ∈ group.ids ∧ b.1 ∈ group.ids) ↔
      a.2.bucket tables = b.2.bucket tables := by
  rw [colors_compile]
  constructor
  · rintro ⟨group, hgroup, hidA, hidB⟩
    obtain ⟨color, -, rfl⟩ := List.mem_map.mp hgroup
    exact ((mem_ids_groupOf ha).mp hidA).trans ((mem_ids_groupOf hb).mp hidB).symm
  · intro hsame
    exact ⟨_, List.mem_map_of_mem (bucket_mem_buckets ha), (mem_ids_groupOf ha).mpr rfl,
      (mem_ids_groupOf hb).mpr hsame.symm⟩

theorem tiles_compile_perm :
    ((catalog.compile tables layout).colors.flatMap CatalogColor.tiles).Perm
      (catalog.entries.map (compileTile tables layout)) := by
  rw [colors_compile, List.flatMap_map]
  change ((catalog.buckets tables).flatMap fun color =>
    (catalog.entries.filter (·.2.bucket tables = color)).map _).Perm _
  rw [← List.map_flatMap]
  exact (flatMap_filter_eraseDups_perm (fun entry => entry.2.bucket tables) catalog.entries).map _

/-- Compiling a catalog shows its tiles by color. Each tile stands in one group and once, with its id, its
encoding and whether it is broken, and two tiles stand together exactly if they have the same color. The
tiles of a group ascend by id, the groups by their smallest ids, and names and symbols are those of the
groups' colors in the same order. -/
theorem compile_shows (tables : Tables) (layout : Layout) (catalog : Catalog) :
    ∃ colors, CompiledCatalog.Shows tables layout catalog colors (catalog.compile tables layout) := by
  refine ⟨catalog.buckets tables, nodup_eraseDups _, ?_, symbols_compile .., tiles_compile_perm,
    fun _ => exists_unique_place, fun _ ha _ => exists_common_group ha, ?_, pairwise_colors⟩
  · rw [colors_compile, List.forall₂_map_right_iff, List.forall₂_same]
    exact fun color hcolor => ⟨rfl, tilesOf_ne_nil hcolor, fun tile => mem_tilesOf⟩
  · intro group hgroup
    rw [colors_compile] at hgroup
    obtain ⟨color, -, rfl⟩ := List.mem_map.mp hgroup
    exact pairwise_ids color

end Catalog

end Rail18
