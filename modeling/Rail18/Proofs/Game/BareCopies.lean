import Rail18.Proofs.Game.Variations

/-!
# Hexes that only copy

A hex that says no more than where it lies and what it copies is drawn as the hex that it copies. What
draws a hex, its color and its encoding, is inherited whole, and looks at neither coordinates, nor marks,
nor the copy itself. So the two hexes are listed together in the hex table.
-/

namespace Rail18

open Copies (Cut Settled source)

/-- The hex declares nothing but its coordinates and what it copies. It may be marked with a variation. -/
def Hex.IsBare (h : Hex) : Prop :=
  h = { coords := h.coords, copy := h.copy, variation := h.variation }

instance (h : Hex) : Decidable h.IsBare :=
  inferInstanceAs (Decidable (h = { coords := h.coords, copy := h.copy, variation := h.variation }))

/-- Two hexes have the same color and, in either layout, the same encoding. -/
def Hex.Alike (a b : Hex) : Prop :=
  ∀ tables, a.bucket tables = b.bucket tables ∧
    ∀ layout, a.encode tables layout = b.encode tables layout

namespace Hex

theorem alike_relabeled (h : Hex) (coords : List String) (copy : Option String)
    (variation : Option UInt64) : Hex.Alike { h with coords, copy, variation } h :=
  fun _ => ⟨rfl, fun _ => rfl⟩

theorem alike_strike (h : Hex) (removed : List String) : (h.strike removed).Alike h :=
  h.alike_relabeled _ h.copy h.variation

namespace Alike

variable {a b c : Hex}

theorem symm (h : a.Alike b) : b.Alike a :=
  fun tables => ⟨(h tables).1.symm, fun layout => ((h tables).2 layout).symm⟩

theorem trans (hab : a.Alike b) (hbc : b.Alike c) : a.Alike c :=
  fun tables => ⟨(hab tables).1.trans (hbc tables).1,
    fun layout => ((hab tables).2 layout).trans ((hbc tables).2 layout)⟩

theorem strike (h : a.Alike b) (removed : List String) : (a.strike removed).Alike (b.strike removed) :=
  ((a.alike_strike removed).trans h).trans (b.alike_strike removed).symm

end Alike

theorem inherit_of_isBare {own : Hex} (hbare : own.IsBare) (base : Hex) :
    own.inherit base =
      { base with
        coords := own.coords
        copy := own.copy.or base.copy
        variation := own.variation.or base.variation } := by
  obtain ⟨coords, copy, variation, rfl⟩ :
      ∃ coords copy variation, own = { coords, copy, variation } := ⟨_, _, _, hbare⟩
  have hoffboard : inheritOffboard none base.offboard = base.offboard := by
    cases base.offboard <;> rfl
  simp [inherit, inheritList, hoffboard]

end Hex

/-- A bare copy that is followed becomes like what the hex that it refers to becomes. -/
theorem Copies.Settled.alike {hexes : List Hex} {result : Fin hexes.length → Hex}
    {position target : Fin hexes.length}
    (h : Settled hexes (some ∘ result) position (result position))
    (hsource : source hexes position = some target) (hcut : ¬ Cut hexes position)
    (hbare : (hexes.get position).IsBare) : (result position).Alike (result target) := by
  obtain ⟨base, merged, hbase, hmerge, heq⟩ := h.eq_merged hsource hcut
  obtain rfl : result target = base := Option.some.inj hbase
  rw [Hex.merge_eq_inherit] at hmerge
  obtain rfl := Except.ok.inj hmerge
  rw [heq, Hex.inherit_of_isBare hbare]
  exact (result target).alike_relabeled _ none _

/-- Two hexes that are alike and both have coordinates are listed in one entry. -/
theorem HexTable.Lists.exists_common_entry {tables : Tables} {layout : Layout} {hexes : List Hex}
    {table : HexTable} (h : HexTable.Lists tables layout hexes table) {a b : Hex} (ha : a ∈ hexes)
    (hb : b ∈ hexes) (halike : a.Alike b) (hplaced : b.coords ≠ []) :
    ∃ group entry, (b.bucket tables, group) ∈ table ∧ (b.encode tables layout, entry) ∈ group ∧
      a.coords ⊆ entry ∧ b.coords ⊆ entry := by
  obtain ⟨group, entry, hgroup, hentry, hall⟩ := h.exists_entry hb hplaced
  obtain ⟨hcolor, hencoding⟩ := halike tables
  exact ⟨group, entry, hgroup, hentry, hall a ha hcolor (hencoding layout), hall b hb rfl rfl⟩

/-- A bare copy that is followed is like the hex that it refers to, once copies have been followed. In a
game that compiles, the hex table lists the coordinates that are left to the two in one entry. -/
theorem bareCopies_alike :
    (∀ hexes : List Hex, ∃ result : Fin hexes.length → Hex,
      resolveCopies hexes = .ok (List.ofFn result) ∧
        ∀ position target, source hexes position = some target → ¬ Cut hexes position →
          (hexes.get position).IsBare → (result position).Alike (result target)) ∧
    ∀ (tables : Tables) (catalog : Option Catalog) (game : Game) (variation : Nat)
      (compiled : CompiledGame), game.compile tables catalog variation = .ok compiled →
      ∃ hexes : Fin (game.gatheredHexes variation).length → Hex,
        game.resolveHexes variation = .ok (List.ofFn hexes) ∧
          ∀ position target, source (game.gatheredHexes variation) position = some target →
            ¬ Cut (game.gatheredHexes variation) position →
            ((game.gatheredHexes variation).get position).IsBare →
            (hexes position).coords ≠ [] → (hexes target).coords ≠ [] →
            ∃ group entry, ((hexes target).bucket tables, group) ∈ compiled.hexes ∧
              ((hexes target).encode tables game.layout, entry) ∈ group ∧
              (hexes position).coords ⊆ entry ∧ (hexes target).coords ⊆ entry := by
  constructor
  · intro hexes
    obtain ⟨result, hresult, hsettled⟩ := Copies.exists_settled hexes
    exact ⟨result, hresult, fun position target hsource hcut hbare =>
      (hsettled position).alike hsource hcut hbare⟩
  · intro tables catalog game variation compiled hcompile
    obtain ⟨resolved, hparts⟩ := Game.compile_eq_ok hcompile
    obtain ⟨passed, hpassed, rfl⟩ := Game.resolveHexes_eq_ok hparts.resolved
    obtain ⟨result, hresult, hsettled⟩ := Copies.exists_settled (game.gatheredHexes variation)
    obtain rfl := Except.ok.inj (hresult.symm.trans hpassed)
    have hlists := hparts.lists
    rw [List.map_ofFn] at hlists
    refine ⟨_, hparts.resolved.trans (congrArg Except.ok (List.map_ofFn ..)), ?_⟩
    intro position target hsource hcut hbare _ hplaced
    have halike := (hsettled position).alike hsource hcut hbare
    exact hlists.exists_common_entry (List.mem_ofFn.mpr ⟨position, rfl⟩)
      (List.mem_ofFn.mpr ⟨target, rfl⟩) (halike.strike _) hplaced

/-- The second map adds two bare copies to the lake of the first, one of them a copy of the other, and
strikes one of their coordinates. -/
def lakes : Game where
  info := some { title := some "18Lakes" }
  boards := some (.variations
    [{ hexes := some [{ color := some "water", coords := ["A1"], labels := ["L"] }] },
      { hexes := some
          [{ coords := ["B1", "B3"], copy := some "A1" }, { coords := ["C1"], copy := some "B3" }]
        copy := some 0
        removed := ["B3"] }])

theorem exists_compile_lakes : ∃ compiled, lakes.compile .standard none 1 = .ok compiled := by
  have hboards : lakes.boards = some (.variations lakes.maps) := rfl
  have hboard : lakes.maps[1]? = some _ := rfl
  obtain ⟨resolved, hresolved, -⟩ := Game.exists_resolveHexes hboards hboard (by simp)
  rw [Game.compile, hresolved]
  exact ⟨_, rfl⟩

theorem bareCopies_alike_lakes :
    ∃ compiled, lakes.compile .standard none 1 = .ok compiled ∧
      ∃ color group encoding entry, (color, group) ∈ compiled.hexes ∧ (encoding, entry) ∈ group ∧
        "C1" ∈ entry ∧ "B1" ∈ entry := by
  obtain ⟨compiled, hcompile⟩ := exists_compile_lakes
  obtain ⟨hexes, hresolved, hshared⟩ := bareCopies_alike.2 .standard none lakes 1 compiled hcompile
  let position : Fin (lakes.gatheredHexes 1).length := ⟨2, by decide⟩
  let target : Fin (lakes.gatheredHexes 1).length := ⟨1, by decide⟩
  -- The references lead from the second copy over the first to the lake, and end there.
  have hcut : ¬ Cut (lakes.gatheredHexes 1) position := by
    rintro ⟨⟨-, hback⟩, -⟩
    rcases hback.eq_or_next with hsame | hback
    · exact absurd hsame (by decide)
    · exact absurd (hback.eq_of_fixed (by decide)) (by decide)
  have hcoords : (List.ofFn hexes).map Hex.coords = [["A1"], ["B1"], ["C1"]] :=
    (Game.coords_of_resolveHexes hresolved).trans (by decide)
  have hat (place : Fin (lakes.gatheredHexes 1).length) :
      some (hexes place).coords = [["A1"], ["B1"], ["C1"]][place.val]? := by
    rw [← hcoords]
    simp
  have hposition : (hexes position).coords = ["C1"] := Option.some.inj (hat position)
  have htarget : (hexes target).coords = ["B1"] := Option.some.inj (hat target)
  obtain ⟨group, entry, hgroup, hentry, hown, hother⟩ :=
    hshared position target (by decide) hcut (by decide) (by simp [hposition]) (by simp [htarget])
  rw [hposition] at hown
  rw [htarget] at hother
  exact ⟨compiled, hcompile, _, group, _, entry, hgroup, hentry, hown List.mem_cons_self,
    hother List.mem_cons_self⟩

end Rail18
