import Mathlib.Data.List.Forall2
import Rail18.Proofs.Game.Variations

/-!
# Places on the board

The names of places and the homes of companies are read off the hexes that the hex table lists, so each
of their coordinates is in the table. Names pass over a hex whose coordinates have all been struck, as
the table does. The search for a home does not: it ends at the first hex that names the company, which
may have no coordinate left.
-/

namespace Rail18

/-! ### Names -/

/-- A stop of the hex or its off-board area has a name. -/
def Hex.IsNamed (hex : Hex) : Prop :=
  (∃ stop ∈ hex.cities ++ hex.centerTowns ++ hex.towns, stop.name ≠ none) ∨
    ∃ area ∈ hex.offboard, area.name ≠ none

theorem Hex.placeNames_ne_nil_iff (hex : Hex) : hex.placeNames ≠ [] ↔ hex.IsNamed := by
  have hstops : (hex.cities ++ hex.allTowns).filterMap (·.name) = [] ↔
      ∀ stop ∈ hex.cities ++ hex.centerTowns ++ hex.towns, stop.name = none := by
    rw [List.filterMap_eq_nil_iff, Hex.allTowns, List.append_assoc]
  have harea : (hex.offboard.bind (·.name)).toList = [] ↔
      ∀ area ∈ hex.offboard, area.name = none := by
    rw [Option.toList_eq_nil_iff, Option.bind_eq_none_iff]
    rfl
  rw [Hex.placeNames, ne_eq, List.append_eq_nil_iff, hstops, harea, Hex.IsNamed, not_and_or]
  push Not
  rfl

instance : DecidablePred Hex.IsNamed := fun hex => decidable_of_iff _ hex.placeNames_ne_nil_iff

/-- The name of a place is that of a hex at its first coordinate. -/
def LocationName.Names (place : LocationName) (hex : Hex) : Prop :=
  hex.coords.head? = some place.coord ∧ place.name = " & ".intercalate hex.placeNames

theorem Hex.locationName_of_named {hex : Hex} (hcoords : hex.coords ≠ []) (hnamed : hex.IsNamed) :
    ∃ place, hex.locationName = some place ∧ place.Names hex := by
  obtain ⟨coord, coords, hcoords⟩ := List.exists_cons_of_ne_nil hcoords
  obtain ⟨name, names, hnames⟩ := List.exists_cons_of_ne_nil (hex.placeNames_ne_nil_iff.mpr hnamed)
  refine ⟨⟨coord, " & ".intercalate (name :: names)⟩, ?_, ?_⟩
  · rw [Hex.locationName, hcoords, hnames]
  · rw [LocationName.Names, hcoords, hnames]
    exact ⟨rfl, rfl⟩

theorem Hex.locationName_eq_none {hex : Hex} (h : ¬ (hex.coords ≠ [] ∧ hex.IsNamed)) :
    hex.locationName = none := by
  rw [← hex.placeNames_ne_nil_iff, not_and_or, not_not, not_not] at h
  unfold Hex.locationName
  rcases h with hcoords | hnames
  · rw [hcoords]
  · rw [hnames]
    cases hex.coords <;> rfl

/-- The named hexes with coordinates have a name each, in their order. -/
theorem locationNames_forall₂ (hexes : List Hex) :
    List.Forall₂ LocationName.Names (locationNames hexes)
      (hexes.filter fun hex => hex.coords ≠ [] ∧ hex.IsNamed) := by
  induction hexes with
  | nil => exact .nil
  | cons hex rest ih =>
      rw [locationNames, List.filterMap_cons]
      by_cases hplaced : hex.coords ≠ [] ∧ hex.IsNamed
      · obtain ⟨place, hplace, hnames⟩ := Hex.locationName_of_named hplaced.1 hplaced.2
        rw [List.filter_cons, if_pos (decide_eq_true hplaced), hplace]
        exact .cons hnames ih
      · rw [List.filter_cons, if_neg (by simpa using hplaced), Hex.locationName_eq_none hplaced]
        exact ih

theorem mem_coords_of_mem_locationNames {hexes : List Hex} {place : LocationName}
    (h : place ∈ locationNames hexes) : ∃ hex ∈ hexes, place.coord ∈ hex.coords := by
  obtain ⟨hex, hhex, hplace⟩ := List.mem_filterMap.mp h
  by_cases hplaced : hex.coords ≠ [] ∧ hex.IsNamed
  · obtain ⟨other, hother, hcoord, -⟩ := Hex.locationName_of_named hplaced.1 hplaced.2
    obtain rfl := Option.some.inj (hother.symm.trans hplace)
    exact ⟨hex, hhex, List.mem_of_head? hcoord⟩
  · cases (Hex.locationName_eq_none hplaced).symm.trans hplace

/-! ### Homes -/

/-- A city of the hex names the company. -/
def Hex.IsHomeOf (hex : Hex) (abbreviation : String) : Prop :=
  ∃ city ∈ hex.cities, abbreviation ∈ city.companies

instance (hex : Hex) (abbreviation : String) : Decidable (hex.IsHomeOf abbreviation) :=
  inferInstanceAs (Decidable (∃ city ∈ hex.cities, abbreviation ∈ city.companies))

section Homes

variable {abbreviation : String} {before after hexes : List Hex} {placed : Hex}

theorem findHome_eq_find? (abbreviation : String) (hexes : List Hex) :
    findHome abbreviation hexes =
      (hexes.find? (·.IsHomeOf abbreviation)).bind (·.coords.head?) := by
  have hhouses : Hex.houses abbreviation = fun hex => decide (hex.IsHomeOf abbreviation) := by
    funext hex
    rw [Bool.eq_iff_iff, decide_eq_true_iff]
    simp [Hex.houses, Hex.IsHomeOf]
  rw [findHome, hhouses]

theorem mem_coords_of_findHome {home : String} (h : findHome abbreviation hexes = some home) :
    ∃ hex ∈ hexes, home ∈ hex.coords := by
  rw [findHome_eq_find?] at h
  obtain ⟨hex, hhex, hhome⟩ := Option.bind_eq_some_iff.mp h
  exact ⟨hex, List.mem_of_find?_eq_some hhex, List.mem_of_head? hhome⟩

theorem findHome_append_cons (hbefore : ∀ hex ∈ before, ¬ hex.IsHomeOf abbreviation)
    (hhome : placed.IsHomeOf abbreviation) :
    findHome abbreviation (before ++ placed :: after) = placed.coords.head? := by
  have hnone : before.find? (·.IsHomeOf abbreviation) = none :=
    List.find?_eq_none.mpr fun hex hhex => by simpa using hbefore hex hhex
  have hfirst : (placed :: after).find? (·.IsHomeOf abbreviation) = some placed := by
    simp [hhome]
  rw [findHome_eq_find?, List.find?_append, hnone, Option.none_or, hfirst, Option.bind_some]

/-- The search ends at a hex that has no coordinate left. -/
theorem findHome_append_eq_none (hbefore : ∃ hex ∈ before, hex.IsHomeOf abbreviation)
    (hstruck : ∀ hex ∈ before, hex.IsHomeOf abbreviation → hex.coords = []) :
    findHome abbreviation (before ++ after) = none := by
  have hsome : (before.find? (·.IsHomeOf abbreviation)).isSome :=
    List.find?_isSome.mpr (hbefore.imp fun hex h => ⟨h.1, decide_eq_true h.2⟩)
  obtain ⟨first, hfirst⟩ := Option.isSome_iff_exists.mp hsome
  have hhome : first.IsHomeOf abbreviation := by simpa using List.find?_some hfirst
  have hcoords := hstruck first (List.mem_of_find?_eq_some hfirst) hhome
  rw [findHome_eq_find?, List.find?_append, hfirst, Option.some_or, Option.bind_some, hcoords]
  rfl

/-- If a company is at home on the board, its home is the first hex with coordinates that names it,
unless a hex before that one names it too. -/
theorem exists_findHome_eq (hboard : ∃ hex ∈ hexes, hex.coords ≠ [] ∧ hex.IsHomeOf abbreviation) :
    ∃ before placed after, hexes = before ++ placed :: after ∧
      placed.coords ≠ [] ∧ placed.IsHomeOf abbreviation ∧
      (∀ hex ∈ before, hex.IsHomeOf abbreviation → hex.coords = []) ∧
      findHome abbreviation hexes =
        if ∃ hex ∈ before, hex.IsHomeOf abbreviation then none else placed.coords.head? := by
  obtain ⟨placed, hfirst⟩ := Option.isSome_iff_exists.mp
    (List.find?_isSome.mpr (hboard.imp fun hex h => ⟨h.1, decide_eq_true h.2⟩))
  obtain ⟨hplaced, before, after, rfl, hbefore⟩ := List.find?_eq_some_iff_append.mp hfirst
  obtain ⟨hcoords, hhome⟩ := of_decide_eq_true hplaced
  have hstruck : ∀ hex ∈ before, hex.IsHomeOf abbreviation → hex.coords = [] := by
    intro hex hhex hhome
    simpa [hhome] using hbefore hex hhex
  refine ⟨before, placed, after, rfl, hcoords, hhome, hstruck, ?_⟩
  by_cases hearlier : ∃ hex ∈ before, hex.IsHomeOf abbreviation
  · rw [if_pos hearlier, findHome_append_eq_none hearlier hstruck]
  · rw [if_neg hearlier]
    push Not at hearlier
    exact findHome_append_cons hearlier hhome

end Homes

/-! ### The places of a compiled game -/

namespace Game

variable {tables : Tables} {catalog : Option Catalog} {game : Game} {variation : Nat}
  {compiled : CompiledGame}

theorem home_of_mem_companies {hexes : List Hex} {company : CompiledCompany}
    (hparts : game.CompilesTo tables catalog variation hexes compiled)
    (hcompany : company ∈ compiled.companies) :
    company.home = findHome company.abbreviation hexes := by
  rw [hparts.companies] at hcompany
  obtain ⟨declared, -, rfl⟩ := List.mem_map.mp hcompany
  rfl

theorem abbreviations_of_compilesTo {hexes : List Hex}
    (hparts : game.CompilesTo tables catalog variation hexes compiled) :
    compiled.companies.map CompiledCompany.abbreviation = game.companies.map Company.abbreviation := by
  rw [hparts.companies, compiledCompanies, List.map_map]
  rfl

/-- The second map strikes the home of one company and houses it elsewhere, and strikes one of two
coordinates of the home of the other. -/
def movedHome : Game where
  info := some { title := some "18Moved" }
  companies := [{ abbreviation := "PRR" }, { abbreviation := "B&O" }]
  boards := some (.variations
    [{ hexes := some
        [{ coords := ["A1"], cities := [{ companies := ["PRR"] }] },
          { coords := ["A3", "A5"]
            cities := [{ companies := ["B&O"], name := some "Sample City" }] }] },
      { hexes := some [{ coords := ["B2"], cities := [{ companies := ["PRR"] }] }]
        copy := some 0
        removed := ["A1", "A3"] }])

/-- The hexes of the second variation: the first of them has no coordinate left. -/
def movedHexes : List Hex :=
  [{ coords := [], cities := [{ companies := ["PRR"] }], variation := some 0 },
    { coords := ["A5"]
      cities := [{ companies := ["B&O"], name := some "Sample City" }]
      variation := some 0 },
    { coords := ["B2"], cities := [{ companies := ["PRR"] }], variation := some 1 }]

theorem resolveHexes_movedHome : movedHome.resolveHexes 1 = .ok movedHexes :=
  (resolveHexes_of_plain rfl (by simp) (by decide)).trans rfl

theorem exists_compile_movedHome : ∃ compiled, movedHome.compile .standard none 1 = .ok compiled ∧
    compiled.locationNames = [⟨"A5", "Sample City"⟩] ∧
    compiled.companies.map (fun company => (company.abbreviation, company.home)) =
      [("PRR", none), ("B&O", some "A5")] := by
  rw [Game.compile, resolveHexes_movedHome]
  exact ⟨_, rfl, by decide, by decide⟩

/-- The places of a compiled game are on the board: the coordinates of the place names, which are those
of the named hexes with coordinates, one for each in their order, and the homes of the companies are
coordinates of the hex table. -/
theorem compile_places_on_board (hcompile : game.compile tables catalog variation = .ok compiled) :
    ∃ hexes, game.resolveHexes variation = .ok hexes ∧
      List.Forall₂ LocationName.Names compiled.locationNames
        (hexes.filter fun hex => hex.coords ≠ [] ∧ hex.IsNamed) ∧
      (∀ place ∈ compiled.locationNames, place.coord ∈ compiled.hexes.coords) ∧
      ∀ company ∈ compiled.companies, ∀ home, company.home = some home →
        home ∈ compiled.hexes.coords := by
  obtain ⟨hexes, hparts⟩ := Game.compile_eq_ok hcompile
  refine ⟨hexes, hparts.resolved, ?_, ?_, ?_⟩
  · rw [hparts.locationNames]
    exact locationNames_forall₂ hexes
  · intro place hplace
    rw [hparts.locationNames] at hplace
    exact hparts.lists.mem_coords.mpr (mem_coords_of_mem_locationNames hplace)
  · intro company hcompany home hhome
    rw [home_of_mem_companies hparts hcompany] at hhome
    exact hparts.lists.mem_coords.mpr (mem_coords_of_findHome hhome)

theorem compile_places_on_board_movedHome :
    ∃ compiled, movedHome.compile .standard none 1 = .ok compiled ∧
      compiled.locationNames = [⟨"A5", "Sample City"⟩] ∧ "A5" ∈ compiled.hexes.coords := by
  obtain ⟨compiled, hcompile, hnames, -⟩ := exists_compile_movedHome
  obtain ⟨-, -, -, hplaces, -⟩ := compile_places_on_board hcompile
  refine ⟨compiled, hcompile, hnames, hplaces ⟨"A5", "Sample City"⟩ ?_⟩
  rw [hnames]
  exact List.mem_singleton_self _

/-- A company that some hex with coordinates names is at home at the first coordinate of the first such
hex, unless a hex before it names the company and has lost all its coordinates: then it has no home. -/
theorem compile_home (hcompile : game.compile tables catalog variation = .ok compiled) :
    compiled.companies.map CompiledCompany.abbreviation =
        game.companies.map Company.abbreviation ∧
      ∃ hexes, game.resolveHexes variation = .ok hexes ∧ ∀ company ∈ compiled.companies,
        (∃ hex ∈ hexes, hex.coords ≠ [] ∧ hex.IsHomeOf company.abbreviation) →
          ∃ before placed after, hexes = before ++ placed :: after ∧
            placed.coords ≠ [] ∧ placed.IsHomeOf company.abbreviation ∧
            (∀ hex ∈ before, hex.IsHomeOf company.abbreviation → hex.coords = []) ∧
            company.home =
              if ∃ hex ∈ before, hex.IsHomeOf company.abbreviation then none
              else placed.coords.head? := by
  obtain ⟨hexes, hparts⟩ := Game.compile_eq_ok hcompile
  refine ⟨abbreviations_of_compilesTo hparts, hexes, hparts.resolved, fun company hcompany hboard => ?_⟩
  rw [home_of_mem_companies hparts hcompany]
  exact exists_findHome_eq hboard

theorem compile_home_movedHome :
    ∃ compiled, movedHome.compile .standard none 1 = .ok compiled ∧
      ∃ company ∈ compiled.companies, company.abbreviation = "B&O" ∧
        ∃ hexes, movedHome.resolveHexes 1 = .ok hexes ∧
          ∃ before placed after, hexes = before ++ placed :: after ∧
            placed.coords ≠ [] ∧ placed.IsHomeOf "B&O" ∧
            company.home =
              if ∃ hex ∈ before, hex.IsHomeOf "B&O" then none else placed.coords.head? := by
  obtain ⟨compiled, hcompile, -, hcompanies⟩ := exists_compile_movedHome
  have hlisted : ("B&O", some "A5") ∈
      compiled.companies.map fun company => (company.abbreviation, company.home) := by
    rw [hcompanies]
    decide
  obtain ⟨company, hcompany, hsame⟩ := List.mem_map.mp hlisted
  have hname : company.abbreviation = "B&O" := congrArg Prod.fst hsame
  obtain ⟨-, hexes, hresolved, hhome⟩ := compile_home hcompile
  have hboard : ∃ hex ∈ hexes, hex.coords ≠ [] ∧ hex.IsHomeOf company.abbreviation := by
    obtain rfl := Except.ok.inj (resolveHexes_movedHome.symm.trans hresolved)
    rw [hname]
    decide
  obtain ⟨before, placed, after, hsplit, hcoords, hplaced, -, heq⟩ := hhome company hcompany hboard
  rw [hname] at hplaced heq
  exact ⟨compiled, hcompile, company, hcompany, hname, hexes, hresolved, before, placed, after, hsplit,
    hcoords, hplaced, heq⟩

/-- A company has no home, though a hex on the board names it. -/
theorem home_eq_none_movedHome :
    movedHome.resolveHexes 1 = .ok movedHexes ∧
      (movedHexes.filter fun hex => hex.coords ≠ [] ∧ hex.IsHomeOf "PRR").map Hex.coords = [["B2"]] ∧
      ∃ compiled, movedHome.compile .standard none 1 = .ok compiled ∧
        compiled.companies.map (fun company => (company.abbreviation, company.home)) =
          [("PRR", none), ("B&O", some "A5")] := by
  obtain ⟨compiled, hcompile, -, hcompanies⟩ := exists_compile_movedHome
  exact ⟨resolveHexes_movedHome, by decide, compiled, hcompile, hcompanies⟩

end Game

end Rail18
