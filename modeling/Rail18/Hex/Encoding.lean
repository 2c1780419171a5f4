import Rail18.Hex.Segment
import Rail18.Hex.Side
import Rail18.Tables

/-! # Encoding

The segments of a hex stand in a fixed order: junction, off-board area, cities, towns, paths,
labels, terrain, border. A hex that brings its own encoding is not looked at any further.

Beside the segments that sides and counts go into stand the same segments in words of 64 bits. They are
missing where a sum leaves the range of words, and within it they are the same. -/

namespace Rail18

theorem mapM_eq_some_map {α β : Type} {f : α → Option β} {g : α → β} {items : List α}
    (h : ∀ item ∈ items, f item = some (g item)) : items.mapM f = some (items.map g) := by
  induction items with
  | nil => rfl
  | cons item rest ih =>
      have hrest := ih fun other hother => h other (List.mem_cons_of_mem _ hother)
      rw [List.mapM_cons, h item List.mem_cons_self, hrest]
      rfl

namespace Track

/-- The paths of a track. A curved track runs from side to side, from the lower index to the higher,
unless it passes a node; any other ends in a node, the first unless one is named. -/
def ends (layout : Layout) (node : Option Nat) (track : Track) : List (PathEnd × PathEnd) :=
  let a := layout.sideIndex track.start
  match track.curve.span, node with
  | some span, some node =>
    let b := layout.sideIndex (track.start + span)
    [(.side (min a b), .node node), (.node node, .side (max a b))]
  | some span, none =>
    let b := layout.sideIndex (track.start + span)
    [(.side (min a b), .side (max a b))]
  | none, some node => [(.side a, .node node)]
  | none, none => [(.side a, .node 0)]

/-- The paths of a track, in words. -/
def ends? (layout : Layout) (node : Option UInt64) (track : Track) :
    Option (List (PathEnd × PathEnd)) := do
  let side := track.side.getD 1
  let a ← layout.sideIndex? side
  match track.curve.span, node with
  | some span, some node =>
    let b ← layout.sideIndex? (← Word.add? side (.ofNat span))
    return [(.side (min a.toInt b.toInt), .node node.toNat),
      (.node node.toNat, .side (max a.toInt b.toInt))]
  | some span, none =>
    let b ← layout.sideIndex? (← Word.add? side (.ofNat span))
    return [(.side (min a.toInt b.toInt), .side (max a.toInt b.toInt))]
  | none, some node => return [(.side a.toInt, .node node.toNat)]
  | none, none => return [(.side a.toInt, .node 0)]

/-- A track starts after the least of all words, and no span from there leads past the greatest. -/
def StaysInWords (track : Track) : Prop :=
  -Word.signedLimit < track.start ∧ track.start + 3 < Word.signedLimit

/-- The paths of a track that stays in words come out in words as they do in numbers. -/
theorem ends?_eq_some (layout : Layout) (node : Option UInt64) {track : Track} (h : track.StaysInWords) :
    track.ends? layout node = some (track.ends layout (node.map UInt64.toNat)) := by
  obtain ⟨hlow, hhigh⟩ := h
  obtain ⟨a, ha, haValue⟩ := layout.exists_sideIndex? hlow
  change a.toInt = layout.sideIndex track.start at haValue
  unfold ends? ends
  cases hspan : track.curve.span with
  | none => cases node <;> simp [ha, haValue]
  | some span =>
      have hsome := Curve.span_mem hspan
      have hspanValue : (Int64.ofNat span).toInt = span := Int64.toInt_ofNat_of_lt (by omega)
      have hstart : (track.side.getD 1).toInt = track.start := rfl
      obtain ⟨far, hfar, hfarValue⟩ :
          ∃ far, Word.add? (track.side.getD 1) (.ofNat span) = some far ∧ _ :=
        Word.exists_add? (by omega) (by omega)
      rw [hstart, hspanValue] at hfarValue
      obtain ⟨b, hb, hbValue⟩ := layout.exists_sideIndex? (show -Word.signedLimit < far.toInt by omega)
      rw [hfarValue] at hbValue
      cases node <;> simp [ha, haValue, hfar, hb, hbValue]

/-- The gauge of a track's paths, where it is given. -/
def shownGauge (track : Track) : Option String := track.gauge.filter (· ≠ "")

def segments (layout : Layout) (node : Option Nat) (track : Track) : List Segment :=
  (track.ends layout node).map fun (a, b) => .path a b track.shownGauge

def segments? (layout : Layout) (node : Option UInt64) (track : Track) : Option (List Segment) :=
  (track.ends? layout node).map fun ends => ends.map fun (a, b) => .path a b track.shownGauge

end Track

namespace Hex

/-- Nothing but track, none of which is curved. -/
def isJunction (h : Hex) : Bool :=
  !h.track.isEmpty && !h.hasStops && h.offboard.isNone && h.track.all (·.kind.isNone)

/-- What the stop at an index pays: the value at its place, else the first, else what the off-board
area pays, else nothing. -/
def stopRevenue (h : Hex) (index : Nat) : Revenue :=
  match h.values[index]?.or h.values.head? with
  | some amount => .single amount
  | none =>
    match h.offboard with
    | some offboard => .ofOffboard offboard
    | none => .single (.number 0)

def junctionSegments (h : Hex) : List Segment := if h.isJunction then [.junction] else []

/-- The off-board area, shown where there is no stop. -/
def offboardSegments (h : Hex) : List Segment :=
  match h.offboard with
  | some offboard => if h.hasStops then [] else [.offboard (.ofOffboard offboard) offboard.groups]
  | none => []

/-- The number of slots of a city that has more than one. -/
def slots (city : Stop) : Option Nat := (city.size.map (·.toNat)).filter (1 < ·)

def citySegments (h : Hex) : List Segment :=
  h.cities.mapIdx fun index city => .city (h.stopRevenue index) (slots city) city.groups

def townSegments (h : Hex) : List Segment :=
  h.allTowns.mapIdx fun index town => .town (h.stopRevenue index) town.groups

def revenueLocations (h : Hex) : Nat := h.values.length + if h.offboard.isSome then 1 else 0

/-- The number of places that pay, in words. -/
def revenueLocations? (h : Hex) : Option UInt64 := do
  let values ← Word.uint64? h.values.length
  Word.addNatural? values h.offboard.isSome.toUInt64

theorem exists_revenueLocations? {h : Hex} (hvalues : h.values.length + 1 < UInt64.size) :
    ∃ locations, h.revenueLocations? = some locations ∧ locations.toNat = h.revenueLocations := by
  obtain ⟨values, hcount, hcountValue⟩ := Word.exists_uint64? (Int.natCast_nonneg h.values.length)
    (by omega)
  have hextra : h.offboard.isSome.toUInt64.toNat = if h.offboard.isSome then 1 else 0 := by
    cases h.offboard.isSome <;> rfl
  have hle : h.offboard.isSome.toUInt64.toNat ≤ 1 := by cases h.offboard.isSome <;> decide
  obtain ⟨locations, hlocations, hvalue⟩ :=
    Word.exists_addNatural? (show values.toNat + h.offboard.isSome.toUInt64.toNat < UInt64.size by omega)
  have hsum : h.revenueLocations? = some locations := by
    rw [revenueLocations?, hcount, Option.bind_eq_bind, Option.bind_some, hlocations]
  refine ⟨locations, hsum, ?_⟩
  rw [revenueLocations, ← hextra, hvalue, Int.ofNat.inj hcountValue]

/-- The node that the track at an index passes: with several places that pay, they take turns. -/
def trackNode (h : Hex) (index : Nat) : Option Nat :=
  if 1 < h.revenueLocations then some (index % h.revenueLocations) else none

/-- The node that the track at an index passes, in words. -/
def trackNode? (h : Hex) (index : Nat) : Option (Option UInt64) := do
  let locations ← h.revenueLocations?
  if 1 < locations then
    let index ← Word.uint64? index
    return some (← Word.mod? index locations)
  else return none

theorem exists_trackNode? {h : Hex} {index : Nat} (hvalues : h.values.length + 1 < UInt64.size)
    (hindex : index < UInt64.size) :
    ∃ node, h.trackNode? index = some node ∧ node.map UInt64.toNat = h.trackNode index := by
  obtain ⟨locations, hlocations, hlocationsValue⟩ := exists_revenueLocations? hvalues
  have hmanyIff : 1 < locations ↔ 1 < h.revenueLocations := by
    rw [UInt64.lt_iff_toNat_lt, hlocationsValue]
    rfl
  unfold trackNode? trackNode
  by_cases hmany : 1 < h.revenueLocations
  · obtain ⟨word, hword, hwordValue⟩ := Word.exists_uint64? (Int.natCast_nonneg index) (by omega)
    have hnonzero : locations ≠ 0 := by
      rintro rfl
      exact absurd (hlocationsValue ▸ hmany) (by decide)
    refine ⟨some (word % locations), ?_, ?_⟩
    · simp [hlocations, hmanyIff.mpr hmany, hword, Word.mod?, hnonzero]
    · rw [if_pos hmany, Option.map_some, UInt64.toNat_mod, hlocationsValue, Int.ofNat.inj hwordValue]
  · refine ⟨none, ?_, ?_⟩
    · simp [hlocations, hmanyIff, hmany]
    · rw [if_neg hmany]
      rfl

def pathSegments (layout : Layout) (h : Hex) : List Segment :=
  (h.track.mapIdx fun index track => track.segments layout (h.trackNode index)).flatten

/-- The paths of a hex, in words. There are none if a sum leaves their range, or if something is divided
by zero. -/
def pathSegments? (layout : Layout) (h : Hex) : Option (List Segment) := do
  let paths ← h.track.zipIdx.mapM fun (track, index) => do
    track.segments? layout (← h.trackNode? index)
  return paths.flatten

/-- The paths of a hex come out in words as they do in numbers. -/
theorem pathSegments?_eq_some (layout : Layout) {h : Hex}
    (hsides : ∀ track ∈ h.track, track.StaysInWords)
    (hvalues : h.values.length + 1 < UInt64.size) (htracks : h.track.length ≤ UInt64.size) :
    h.pathSegments? layout = some (h.pathSegments layout) := by
  have hpaths : ∀ item ∈ h.track.zipIdx,
      (h.trackNode? item.2 >>= fun node => item.1.segments? layout node) =
        some (item.1.segments layout (h.trackNode item.2)) := by
    intro item hitem
    obtain ⟨hindex, htrack⟩ := List.mem_zipIdx' hitem
    obtain ⟨node, hnode, hvalue⟩ := exists_trackNode? hvalues (Nat.lt_of_lt_of_le hindex htracks)
    have hstays := hsides item.1 (htrack ▸ List.getElem_mem hindex)
    rw [hnode, Option.bind_eq_bind, Option.bind_some, Track.segments?,
      Track.ends?_eq_some layout node hstays, hvalue]
    rfl
  rw [pathSegments?, mapM_eq_some_map hpaths, pathSegments, List.mapIdx_eq_zipIdx_map]
  rfl

/-- The kinds of terrain as drawn, each once. -/
def terrainKinds (tables : Tables) (h : Hex) : List String :=
  ((h.terrain.filterMap (·.kind)).map tables.terrain).eraseDups

/-- The first cost of the terrain, and its kinds. -/
def terrainSegments (tables : Tables) (h : Hex) : List Segment :=
  match h.terrain.findSome? (·.cost), h.terrainKinds tables with
  | none, [] => []
  | cost, kinds => [.terrain cost kinds]

def borderSegments (layout : Layout) (h : Hex) : List Segment :=
  match h.removedBorders with
  | [] => []
  | side :: _ => [.border (layout.borderEdge side.toInt)]

/-- The border that is left out, in words. -/
def borderSegments? (layout : Layout) (h : Hex) : Option (List Segment) :=
  match h.removedBorders with
  | [] => some []
  | side :: _ => (layout.borderEdge? side).map fun edge => [.border edge.toInt]

theorem borderSegments?_eq_some (layout : Layout) {h : Hex}
    (hborders : ∀ side ∈ h.removedBorders, -Word.signedLimit < side.toInt) :
    h.borderSegments? layout = some (h.borderSegments layout) := by
  unfold borderSegments? borderSegments
  cases hremoved : h.removedBorders with
  | nil => rfl
  | cons side rest =>
      have hlow := hborders side (hremoved ▸ List.mem_cons_self)
      have hbounds := layout.turn_bounds
      have hturned : -Word.signedLimit + layout.turn ≤ side.toInt := by omega
      obtain ⟨edge, hedge, hvalue⟩ := layout.exists_borderEdge? hturned
      simp [hedge, hvalue]

def segments (tables : Tables) (layout : Layout) (h : Hex) : List Segment :=
  h.junctionSegments ++ h.offboardSegments ++ h.citySegments ++ h.townSegments ++
    h.pathSegments layout ++ h.labels.map .label ++ h.terrainSegments tables ++
    h.borderSegments layout

/-- The encoding of a hex: its own, or the text of its features. -/
def encode (tables : Tables) (layout : Layout) (h : Hex) : String :=
  h.encoding.getD (renderSegments (h.segments tables layout))

def segments? (tables : Tables) (layout : Layout) (h : Hex) : Option (List Segment) := do
  let paths ← h.pathSegments? layout
  let borders ← h.borderSegments? layout
  return h.junctionSegments ++ h.offboardSegments ++ h.citySegments ++ h.townSegments ++
    paths ++ h.labels.map .label ++ h.terrainSegments tables ++ borders

/-- The encoding of a hex, in words. -/
def encode? (tables : Tables) (layout : Layout) (h : Hex) : Option String :=
  match h.encoding with
  | some encoding => some encoding
  | none => (h.segments? tables layout).map renderSegments

/-- A hex is encoded in words as it is in numbers if its tracks stay in words, its borders come after the
least of all words, and its lists are as short as lists in memory are. -/
theorem encode?_eq_some (tables : Tables) (layout : Layout) {h : Hex}
    (hsides : ∀ track ∈ h.track, track.StaysInWords)
    (hborders : ∀ side ∈ h.removedBorders, -Word.signedLimit < side.toInt)
    (hvalues : h.values.length + 1 < UInt64.size) (htracks : h.track.length ≤ UInt64.size) :
    h.encode? tables layout = some (h.encode tables layout) := by
  have hpaths := pathSegments?_eq_some layout hsides hvalues htracks
  have hborder := borderSegments?_eq_some layout hborders
  have hsegments : h.segments? tables layout = some (h.segments tables layout) := by
    simp [segments?, segments, hpaths, hborder]
  unfold encode? encode
  cases h.encoding with
  | some encoding => rfl
  | none => rw [hsegments, Option.map_some, Option.getD_none]

end Hex

end Rail18
