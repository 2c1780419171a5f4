import Rail18.Proofs.Hex.Features

/-!
# Nodes and the paths that lead to them

The places that an encoding lists are its nodes, counted from zero, and a junction is a node zero of its
own. Paths name nodes by number, but the numbers come from what pays: the values and the off-board area,
taken in turn by the tracks. So the nodes that paths lead to are counted one way and the nodes that are
there another way, and the two counts decide whether a path leads nowhere.
-/

namespace Rail18

/-- The number of the node that a path ends in, if it is no side. -/
def PathEnd.node? : PathEnd → Option Nat
  | side _ => none
  | node index => some index

namespace Segment

def isNode : Segment → Bool
  | offboard .. | city .. | town .. => true
  | _ => false

/-- The numbers of the nodes that a segment leads to. -/
def targets : Segment → List Nat
  | path a b _ => [a, b].filterMap PathEnd.node?
  | _ => []

end Segment

def nodeCount (segments : List Segment) : Nat := segments.countP Segment.isNode

/-- A path of the segments leads to the node with a number. -/
def LeadsTo (segments : List Segment) (index : Nat) : Prop :=
  ∃ segment ∈ segments, index ∈ segment.targets

/-- The segments have the node with a number. -/
def HasNode (segments : List Segment) (index : Nat) : Prop :=
  index < nodeCount segments ∨ index = 0 ∧ Segment.junction ∈ segments

/-- How many nodes the paths of a hex lead to: with several places that pay, as many as there are tracks to
take turns; otherwise only stubs lead to a node, the first. -/
def Hex.nodesReached (h : Hex) : Nat :=
  if 1 < h.revenueLocations then min h.track.length h.revenueLocations
  else if h.track.any (·.curve = .stub) then 1 else 0

/-! ### The segments by kind -/

def Segment.kind : Segment → FeatureKind
  | junction => .junction
  | offboard .. => .offboard
  | city .. => .city
  | town .. => .town
  | path .. => .path
  | label _ => .label
  | terrain .. => .terrain
  | border _ => .border

/-- The segments of a hex that are of one kind. -/
def Hex.block (tables : Tables) (layout : Layout) (h : Hex) : FeatureKind → List Segment
  | .junction => h.junctionSegments
  | .offboard => h.offboardSegments
  | .city => h.citySegments
  | .town => h.townSegments
  | .path => h.pathSegments layout
  | .label => h.labels.map .label
  | .terrain => h.terrainSegments tables
  | .border => h.borderSegments layout

section Blocks

variable {tables : Tables} {layout : Layout} {h : Hex}

theorem Hex.segments_eq_flatMap_block :
    h.segments tables layout = FeatureKind.all.flatMap (h.block tables layout) := by
  simp [Hex.segments, FeatureKind.all, Hex.block]

theorem Hex.kind_of_mem_block {kind : FeatureKind} {segment : Segment}
    (hmem : segment ∈ h.block tables layout kind) : segment.kind = kind := by
  cases kind with
  | junction =>
      simp only [Hex.block, Hex.junctionSegments] at hmem
      split at hmem
      · rw [List.mem_singleton.mp hmem]
        rfl
      · cases hmem
  | offboard =>
      simp only [Hex.block, Hex.offboardSegments] at hmem
      split at hmem
      · split at hmem
        · cases hmem
        · rw [List.mem_singleton.mp hmem]
          rfl
      · cases hmem
  | city =>
      obtain ⟨index, hindex, rfl⟩ := List.mem_mapIdx.mp hmem
      rfl
  | town =>
      obtain ⟨index, hindex, rfl⟩ := List.mem_mapIdx.mp hmem
      rfl
  | path =>
      obtain ⟨paths, hpaths, hmem⟩ := List.mem_flatten.mp hmem
      obtain ⟨index, hindex, rfl⟩ := List.mem_mapIdx.mp hpaths
      obtain ⟨ends, -, rfl⟩ := List.mem_map.mp hmem
      rfl
  | label =>
      obtain ⟨text, -, rfl⟩ := List.mem_map.mp hmem
      rfl
  | terrain =>
      simp only [Hex.block, Hex.terrainSegments] at hmem
      split at hmem
      · cases hmem
      · rw [List.mem_singleton.mp hmem]
        rfl
  | border =>
      simp only [Hex.block, Hex.borderSegments] at hmem
      split at hmem
      · cases hmem
      · rw [List.mem_singleton.mp hmem]
        rfl

/-- A segment of a hex stands in the block of its kind. -/
theorem Hex.mem_segments {segment : Segment} :
    segment ∈ h.segments tables layout ↔ segment ∈ h.block tables layout segment.kind := by
  rw [Hex.segments_eq_flatMap_block, List.mem_flatMap]
  constructor
  · rintro ⟨kind, -, hmem⟩
    rwa [Hex.kind_of_mem_block hmem]
  · intro hmem
    refine ⟨segment.kind, ?_, hmem⟩
    cases segment.kind <;> decide

theorem Hex.junction_mem_segments :
    Segment.junction ∈ h.segments tables layout ↔ h.isJunction = true := by
  rw [Hex.mem_segments]
  simp only [Segment.kind, Hex.block, Hex.junctionSegments]
  by_cases hjunction : h.isJunction = true <;> simp [hjunction]

end Blocks

/-! ### How many nodes there are -/

def FeatureKind.isNode : FeatureKind → Bool
  | offboard | city | town => true
  | _ => false

theorem Segment.isNode_eq (segment : Segment) : segment.isNode = segment.kind.isNode := by
  cases segment <;> rfl

section Count

variable {tables : Tables} {layout : Layout} {h : Hex}

theorem Hex.nodeCount_block (kind : FeatureKind) :
    nodeCount (h.block tables layout kind) =
      if kind.isNode then (h.block tables layout kind).length else 0 := by
  have hkind : ∀ segment ∈ h.block tables layout kind, segment.isNode = kind.isNode := by
    intro segment hmem
    rw [Segment.isNode_eq, Hex.kind_of_mem_block hmem]
  split
  · next hnode => exact List.countP_eq_length.mpr fun segment hmem => (hkind segment hmem).trans hnode
  · next hnode =>
      refine List.countP_eq_zero.mpr fun segment hmem => ?_
      rw [hkind segment hmem]
      exact hnode

/-- The nodes of a hex are its cities and towns, or else its off-board area. -/
theorem Hex.nodeCount_segments :
    nodeCount (h.segments tables layout) =
      (if h.offboard.isSome && !h.hasStops then 1 else 0) + h.cities.length + h.allTowns.length := by
  have hoffboard : (h.block tables layout .offboard).length =
      if h.offboard.isSome && !h.hasStops then 1 else 0 := by
    simp only [Hex.block, Hex.offboardSegments]
    cases h.offboard with
    | none => rfl
    | some offboard => cases h.hasStops <;> rfl
  have hcities : (h.block tables layout .city).length = h.cities.length := List.length_mapIdx
  have htowns : (h.block tables layout .town).length = h.allTowns.length := List.length_mapIdx
  have hsum : nodeCount (h.segments tables layout) =
      (FeatureKind.all.map fun kind => nodeCount (h.block tables layout kind)).sum := by
    rw [Hex.segments_eq_flatMap_block]
    exact List.countP_flatMap
  rw [hsum]
  simp only [Hex.nodeCount_block, FeatureKind.all, List.map_cons, List.map_nil, List.sum_cons,
    List.sum_nil, FeatureKind.isNode, hoffboard, hcities, htowns, if_true, Bool.false_eq_true, if_false]
  omega

end Count

/-! ### Where paths lead -/

/-- The paths of a track lead to the node that it passes. A track that passes none leads to the first node
if it is a stub. -/
theorem Track.leadsTo_segments (layout : Layout) (node : Option Nat) (track : Track) (index : Nat) :
    LeadsTo (track.segments layout node) index ↔
      node = some index ∨ node = none ∧ track.curve = .stub ∧ index = 0 := by
  unfold LeadsTo Track.segments Track.ends
  cases hcurve : track.curve <;> cases node <;>
    simp [Curve.span, Segment.targets, PathEnd.node?, eq_comm]

section Paths

variable (tables : Tables) (layout : Layout) (h : Hex)

theorem Hex.leadsTo_segments (index : Nat) :
    LeadsTo (h.segments tables layout) index ↔ LeadsTo (h.pathSegments layout) index := by
  constructor
  · rintro ⟨segment, hmem, hindex⟩
    -- No segment of another kind leads anywhere.
    have hkind : segment.kind = .path := by
      cases segment with
      | path a b gauge => rfl
      | _ => cases hindex
    rw [Hex.mem_segments, hkind] at hmem
    exact ⟨segment, hmem, hindex⟩
  · rintro ⟨segment, hmem, hindex⟩
    have hblock : segment ∈ h.block tables layout .path := hmem
    have hkind : segment.kind = .path := Hex.kind_of_mem_block hblock
    exact ⟨segment, Hex.mem_segments.mpr (hkind ▸ hblock), hindex⟩

theorem Hex.leadsTo_pathSegments (index : Nat) :
    LeadsTo (h.pathSegments layout) index ↔ ∃ position, ∃ hposition : position < h.track.length,
      h.trackNode position = some index ∨
        h.trackNode position = none ∧ h.track[position].curve = .stub ∧ index = 0 := by
  have hblocks : LeadsTo (h.pathSegments layout) index ↔ ∃ position, ∃ _ : position < h.track.length,
      LeadsTo (h.track[position].segments layout (h.trackNode position)) index := by
    unfold LeadsTo Hex.pathSegments
    simp only [List.mem_flatten, List.mem_mapIdx]
    constructor
    · rintro ⟨segment, ⟨_, ⟨position, hposition, rfl⟩, hsegment⟩, hindex⟩
      exact ⟨position, hposition, segment, hsegment, hindex⟩
    · rintro ⟨position, hposition, segment, hsegment, hindex⟩
      exact ⟨segment, ⟨_, ⟨position, hposition, rfl⟩, hsegment⟩, hindex⟩
  simp only [hblocks, Track.leadsTo_segments]

/-- The nodes that paths lead to are those below a count. -/
theorem Hex.leadsTo_segments_iff_lt (index : Nat) :
    LeadsTo (h.segments tables layout) index ↔ index < h.nodesReached := by
  rw [Hex.leadsTo_segments, Hex.leadsTo_pathSegments]
  unfold Hex.nodesReached Hex.trackNode
  by_cases hseveral : 1 < h.revenueLocations
  · -- A node below both counts is reached by the track at its own position.
    simp only [hseveral, if_true, Option.some.injEq, reduceCtorEq, false_and, or_false, Nat.lt_min]
    constructor
    · rintro ⟨position, hposition, rfl⟩
      exact ⟨Nat.lt_of_le_of_lt (Nat.mod_le _ _) hposition, Nat.mod_lt _ (by omega)⟩
    · rintro ⟨hposition, hindex⟩
      exact ⟨index, hposition, Nat.mod_eq_of_lt hindex⟩
  · -- No track passes a node, and a stub ends in the first.
    simp only [hseveral, if_false, reduceCtorEq, false_or, true_and]
    by_cases hstub : h.track.any (·.curve = .stub) = true
    · obtain ⟨track, htrack, hcurve⟩ := List.any_eq_true.mp hstub
      obtain ⟨position, hposition, rfl⟩ := List.getElem_of_mem htrack
      rw [if_pos hstub, Nat.lt_one_iff]
      constructor
      · rintro ⟨_, _, -, rfl⟩
        rfl
      · rintro rfl
        exact ⟨position, hposition, of_decide_eq_true hcurve, rfl⟩
    · rw [if_neg hstub]
      constructor
      · rintro ⟨position, hposition, hcurve, -⟩
        exact absurd (List.any_eq_true.mpr ⟨_, List.getElem_mem hposition, decide_eq_true hcurve⟩) hstub
      · intro hindex
        omega

end Paths

/-- The nodes that the paths of a hex lead to are counted from the values and the off-board area, those
that it has are its stops or else its off-board area. No path leads nowhere exactly if the first count is
not the greater one, or if a junction is the only node that paths lead to. -/
theorem Hex.hasNode_of_leadsTo_iff (tables : Tables) (layout : Layout) {h : Hex}
    (hencoding : h.encoding = none) :
    h.encode tables layout = renderSegments (h.segments tables layout) ∧
      (∀ index, LeadsTo (h.segments tables layout) index ↔ index < h.nodesReached) ∧
      nodeCount (h.segments tables layout) =
        (if h.offboard.isSome && !h.hasStops then 1 else 0) + h.cities.length + h.allTowns.length ∧
      ((∀ index, LeadsTo (h.segments tables layout) index → HasNode (h.segments tables layout) index) ↔
        h.nodesReached ≤ nodeCount (h.segments tables layout) ∨
          h.nodesReached ≤ 1 ∧ h.isJunction = true) := by
  refine ⟨by rw [Hex.encode, hencoding, Option.getD_none], h.leadsTo_segments_iff_lt tables layout,
    Hex.nodeCount_segments, ?_⟩
  simp only [Hex.leadsTo_segments_iff_lt, HasNode, Hex.junction_mem_segments]
  constructor
  · intro hall
    by_cases hcount : h.nodesReached ≤ nodeCount (h.segments tables layout)
    · exact .inl hcount
    · -- The last of the nodes reached is none of those counted, so it is that of the junction.
      have hlast := hall (h.nodesReached - 1) (by omega)
      rcases hlast with hlt | ⟨hzero, hjunction⟩
      · omega
      · exact .inr ⟨by omega, hjunction⟩
  · rintro (hcount | ⟨hone, hjunction⟩) index hindex
    · exact .inl (Nat.lt_of_lt_of_le hindex hcount)
    · exact .inr ⟨by omega, hjunction⟩

/-- Two straight tracks on a hex with some cities. They take turns between two values. -/
def twoValues (cities : List Stop) : Hex where
  cities := cities
  values := [.number 20, .number 30]
  track := [{ kind := some "straight", side := some 1 }, { kind := some "straight", side := some 2 }]

theorem Hex.hasNode_of_leadsTo_iff_twoCities :
    (twoValues [{}, {}]).encode .standard .pointy =
        "city=revenue:20;city=revenue:30;path=a:0,b:_0;path=a:_0,b:3;path=a:1,b:_1;path=a:_1,b:4" ∧
      LeadsTo ((twoValues [{}, {}]).segments .standard .pointy) 1 ∧
      ∀ index, LeadsTo ((twoValues [{}, {}]).segments .standard .pointy) index →
        HasNode ((twoValues [{}, {}]).segments .standard .pointy) index := by
  obtain ⟨hencode, hreached, hcount, hall⟩ :=
    Hex.hasNode_of_leadsTo_iff .standard .pointy (h := twoValues [{}, {}]) rfl
  exact ⟨rfl, (hreached 1).mpr (by decide), hall.mpr (.inl (by rw [hcount]; decide))⟩

/-- With one city the second track leads to a second node that there is not. -/
theorem Hex.not_hasNode_oneCity :
    (twoValues [{}]).encode .standard .pointy =
        "city=revenue:20;path=a:0,b:_0;path=a:_0,b:3;path=a:1,b:_1;path=a:_1,b:4" ∧
      ¬ ∀ (h : Hex) (layout : Layout), h.encoding = none →
        ∀ index, LeadsTo (h.segments .standard layout) index →
          HasNode (h.segments .standard layout) index := by
  refine ⟨rfl, fun hall => ?_⟩
  have hleads : LeadsTo ((twoValues [{}]).segments .standard .pointy) 1 :=
    ⟨.path (.side 1) (.node 1) none, by decide, by decide⟩
  have hnone : ¬ HasNode ((twoValues [{}]).segments .standard .pointy) 1 := by
    unfold HasNode
    decide
  exact hnone (hall (twoValues [{}]) .pointy rfl 1 hleads)

end Rail18
