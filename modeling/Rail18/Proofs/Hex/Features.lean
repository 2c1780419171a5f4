import Rail18.Hex.Encoding
import Rail18.Proofs.Text.Joined

/-!
# What an encoding tells

The features of a hex are what its encoding is made of: the marks and places and paths that are drawn.
-/

namespace Rail18

open Text (Avoids)

/-! ### Features -/

/-- A place that pays, as it is drawn. -/
structure PayingPlace where
  revenue : String
  hidden : Bool
  slots : Option Nat
  groups : List String
deriving DecidableEq

/-- What is drawn of a hex. Amounts are what is shown of them, so that the number 40 and the text 40
are one amount. -/
structure Features where
  junction : Bool
  offboard : Option PayingPlace
  cities : List PayingPlace
  towns : List PayingPlace
  paths : List (PathEnd × PathEnd × Option String)
  labels : List String
  cost : Option String
  terrain : List String
  border : Option Int
deriving DecidableEq

def Revenue.amounts : Revenue → String
  | single amount => amount.shown
  | phased entries _ => "|".intercalate (entries.map PhasePay.render)

def Revenue.isHidden : Revenue → Bool
  | single _ => false
  | phased _ hidden => hidden

def PayingPlace.of (revenue : Revenue) (slots : Option Nat) (groups : List String) : PayingPlace where
  revenue := revenue.amounts
  hidden := revenue.isHidden
  slots
  groups

/-- The features of a hex. An off-board area is drawn where there is no stop. -/
def Hex.features (tables : Tables) (layout : Layout) (h : Hex) : Features where
  junction := h.isJunction
  offboard := if h.hasStops then none else
    h.offboard.map fun offboard => .of (.ofOffboard offboard) none offboard.groups
  cities := h.cities.mapIdx fun index city => .of (h.stopRevenue index) (slots city) city.groups
  towns := h.allTowns.mapIdx fun index town => .of (h.stopRevenue index) none town.groups
  paths := (h.track.mapIdx fun index track =>
    (track.ends layout (h.trackNode index)).map fun (a, b) => (a, b, track.shownGauge)).flatten
  labels := h.labels
  cost := (h.terrain.findSome? (·.cost)).map Amount.shown
  terrain := h.terrainKinds tables
  border := h.removedBorders.head?.map fun side => layout.borderEdge side.toInt

/-! ### Texts of features -/

/-- The kinds of parts that the text of a place or a terrain may have. -/
inductive PartKind where
  | hide
  | slots
  | groups
  | cost
  | kinds
deriving DecidableEq

/-- The kind of a part, told by its first character. -/
def PartKind.ofText (s : String) : PartKind :=
  match s.toList with
  | 'h' :: _ => hide
  | 's' :: _ => slots
  | 'g' :: _ => groups
  | 'u' :: _ => cost
  | _ => kinds

/-- The part that is there where a flag is set. -/
def flagPart (text : String) (flag : Bool) : List String := if flag then [text] else []

/-- The part that lists items, if there are any. -/
def listPart (lead separator : String) (items : List String) : List String :=
  if items = [] then [] else [lead ++ separator.intercalate items]

namespace PayingPlace

/-- The part of a kind in the text of a place. -/
def part (place : PayingPlace) : PartKind → List String
  | .hide => flagPart "hide:1" place.hidden
  | .slots => (place.slots.map fun size => "slots:" ++ toString size).toList
  | .groups => listPart "groups:" "|" place.groups
  | .cost | .kinds => []

def parts (kind : String) (place : PayingPlace) : List String :=
  (kind ++ place.revenue) :: [.hide, .slots, .groups].flatMap place.part

/-- The text of a place of some kind. -/
def text (kind : String) (place : PayingPlace) : String := ",".intercalate (place.parts kind)

end PayingPlace

def pathParts (path : PathEnd × PathEnd × Option String) : List String :=
  ("path=a:" ++ path.1.render) :: ("b:" ++ path.2.1.render) :: (path.2.2.map ("track:" ++ ·)).toList

def pathText (path : PathEnd × PathEnd × Option String) : String := ",".intercalate (pathParts path)

/-- The part of a kind in the text of a terrain. -/
def terrainPart (cost : Option String) (kinds : List String) : PartKind → List String
  | .cost => (cost.map ("upgrade=cost:" ++ ·)).toList
  | .kinds => listPart "terrain:" "+" kinds
  | .hide | .slots | .groups => []

def terrainParts (cost : Option String) (kinds : List String) : List String :=
  [.cost, .kinds].flatMap (terrainPart cost kinds)

/-- The text of a terrain, if there is anything to tell. -/
def terrainTexts (cost : Option String) (kinds : List String) : List String :=
  listPart "" "," (terrainParts cost kinds)

inductive FeatureKind where
  | junction
  | offboard
  | city
  | town
  | path
  | label
  | terrain
  | border
deriving DecidableEq

namespace FeatureKind

/-- The kinds in the order in which an encoding lists them. -/
def all : List FeatureKind := [junction, offboard, city, town, path, label, terrain, border]

/-- The kind of feature that a text is about, told by its first characters. -/
def ofText (s : String) : FeatureKind :=
  match s.toList with
  | 'j' :: _ => junction
  | 'o' :: _ => offboard
  | 'c' :: _ => city
  | 't' :: 'o' :: _ => town
  | 'p' :: _ => path
  | 'l' :: _ => label
  | 'b' :: _ => border
  | _ => terrain

end FeatureKind

def Features.texts (features : Features) : FeatureKind → List String
  | .junction => flagPart "junction" features.junction
  | .offboard => (features.offboard.map (PayingPlace.text "offboard=revenue:")).toList
  | .city => features.cities.map (PayingPlace.text "city=revenue:")
  | .town => features.towns.map (PayingPlace.text "town=revenue:")
  | .path => features.paths.map pathText
  | .label => features.labels.map ("label=" ++ ·)
  | .terrain => terrainTexts features.cost features.terrain
  | .border => (features.border.map fun edge => "border=edge:" ++ toString edge).toList

def Features.render (features : Features) : String :=
  ";".intercalate (FeatureKind.all.flatMap features.texts)

/-! ### The text of a hex -/

theorem Revenue.render_eq (revenue : Revenue) :
    revenue.render = revenue.amounts ++ if revenue.isHidden then ",hide:1" else "" := by
  cases revenue with
  | single amount => simp [Revenue.render, Revenue.amounts, Revenue.isHidden]
  | phased entries hidden => rfl

theorem PayingPlace.text_of (kind : String) (revenue : Revenue) (slots : Option Nat)
    (groups : List String) :
    (PayingPlace.of revenue slots groups).text kind =
      kind ++ revenue.render ++ Segment.renderSlots slots ++ Segment.renderGroups groups := by
  apply String.toList_injective
  rw [Revenue.render_eq]
  cases hhidden : revenue.isHidden <;> cases slots <;> cases groups <;>
    simp [PayingPlace.text, PayingPlace.parts, PayingPlace.part, PayingPlace.of, flagPart, listPart,
      Segment.renderGroups, Segment.renderSlots, hhidden]

theorem render_offboard (revenue : Revenue) (groups : List String) :
    (Segment.offboard revenue groups).render =
      (PayingPlace.of revenue none groups).text "offboard=revenue:" := by
  rw [PayingPlace.text_of, Segment.renderSlots, String.append_empty]
  rfl

theorem render_city (revenue : Revenue) (slots : Option Nat) (groups : List String) :
    (Segment.city revenue slots groups).render =
      (PayingPlace.of revenue slots groups).text "city=revenue:" := by
  rw [PayingPlace.text_of]
  rfl

theorem render_town (revenue : Revenue) (groups : List String) :
    (Segment.town revenue groups).render =
      (PayingPlace.of revenue none groups).text "town=revenue:" := by
  rw [PayingPlace.text_of, Segment.renderSlots, String.append_empty]
  rfl

theorem render_path (a b : PathEnd) (gauge : Option String) :
    (Segment.path a b gauge).render = pathText (a, b, gauge) := by
  change "path=" ++ Segment.renderEnds a b ++ Segment.renderGauge gauge = pathText (a, b, gauge)
  apply String.toList_injective
  cases gauge with
  | none => simp [pathText, pathParts, Segment.renderEnds, Segment.renderGauge]
  | some gauge => simp [pathText, pathParts, Segment.renderEnds, Segment.renderGauge]

theorem render_terrain (cost : Option Amount) (kinds : List String)
    (h : ¬ (cost = none ∧ kinds = [])) :
    [(Segment.terrain cost kinds).render] = terrainTexts (cost.map Amount.shown) kinds := by
  change [Segment.renderTerrain cost kinds] = terrainTexts (cost.map Amount.shown) kinds
  unfold terrainTexts terrainParts
  cases cost with
  | some cost => cases kinds <;> simp [terrainPart, listPart, Segment.renderTerrain]
  | none =>
      cases kinds with
      | nil => exact absurd ⟨rfl, rfl⟩ h
      | cons kind kinds => simp [terrainPart, listPart, Segment.renderTerrain]

theorem map_mapIdx {α β γ : Type} (f : Nat → α → β) (g : β → γ) (items : List α) :
    (items.mapIdx f).map g = items.mapIdx fun index item => g (f index item) := by
  apply List.ext_getElem
  · simp
  · simp

section Blocks

variable (tables : Tables) (layout : Layout) (h : Hex)

theorem map_render_offboardSegments :
    h.offboardSegments.map Segment.render = (h.features tables layout).texts .offboard := by
  unfold Hex.offboardSegments
  cases hoffboard : h.offboard with
  | none => simp [Features.texts, Hex.features, hoffboard]
  | some offboard =>
      by_cases hstops : h.hasStops
      · simp [Features.texts, Hex.features, hstops]
      · simp [Features.texts, Hex.features, hoffboard, hstops, render_offboard]

theorem map_render_citySegments :
    h.citySegments.map Segment.render = (h.features tables layout).texts .city := by
  simp only [Hex.citySegments, Features.texts, Hex.features, map_mapIdx, render_city]

theorem map_render_townSegments :
    h.townSegments.map Segment.render = (h.features tables layout).texts .town := by
  simp only [Hex.townSegments, Features.texts, Hex.features, map_mapIdx, render_town]

theorem map_render_pathSegments :
    (h.pathSegments layout).map Segment.render = (h.features tables layout).texts .path := by
  simp only [Hex.pathSegments, Features.texts, Hex.features, Track.segments, List.map_flatten,
    map_mapIdx, List.map_map]
  simp only [Function.comp_def, render_path]

theorem map_render_terrainSegments :
    (h.terrainSegments tables).map Segment.render = (h.features tables layout).texts .terrain := by
  unfold Hex.terrainSegments
  split
  · next hcost hkinds => simp [Features.texts, Hex.features, hcost, hkinds, terrainTexts, terrainParts,
      terrainPart, listPart]
  · next hsome => exact render_terrain _ _ fun h => hsome h.1 h.2

theorem map_render_borderSegments :
    (h.borderSegments layout).map Segment.render = (h.features tables layout).texts .border := by
  unfold Hex.borderSegments
  cases hborders : h.removedBorders with
  | nil => simp [Features.texts, Hex.features, hborders]
  | cons side rest =>
      simp only [Features.texts, Hex.features, hborders]
      rfl

/-- The encoding of a hex that does not bring its own is the text of its features. -/
theorem Hex.encode_eq_render (hencoding : h.encoding = none) :
    h.encode tables layout = (h.features tables layout).render := by
  have hjunction :
      h.junctionSegments.map Segment.render = (h.features tables layout).texts .junction := by
    by_cases hjunction : h.isJunction
    · simp only [Hex.junctionSegments, Features.texts, Hex.features, flagPart, hjunction, if_true]
      rfl
    · simp [Hex.junctionSegments, Features.texts, Hex.features, flagPart, hjunction]
  have hlabels : (h.labels.map Segment.label).map Segment.render =
      (h.features tables layout).texts .label := by
    rw [List.map_map]
    rfl
  rw [Hex.encode, hencoding, Option.getD_none, renderSegments, Hex.segments, Features.render]
  congr 1
  simp only [List.map_append, hjunction, hlabels, map_render_offboardSegments tables layout,
    map_render_citySegments tables layout, map_render_townSegments tables layout,
    map_render_pathSegments tables layout, map_render_terrainSegments tables layout,
    map_render_borderSegments tables layout, FeatureKind.all, List.flatMap_cons, List.flatMap_nil,
    List.append_assoc, List.append_nil]

end Blocks

end Rail18
