import Mathlib.Data.List.Forall2
import Rail18.Hex.Encoding
import Rail18.Proofs.Word

/-!
# Turning a hex

An encoding depends on the sides of a hex only through their indices. So hexes that stand flat are encoded
as hexes that stand on a point are whose tracks start one side later and whose border is left out one side
earlier, and an encoding stays the same when sides are counted on by whole rounds. No sum leaves the range
of words on the way if the sides are at least six away from its ends.
-/

namespace Rail18

/-! ### Indices -/

namespace Layout

variable {layout other : Layout} {a b : Int}

/-- Sides at the same index have neighbours at the same index. -/
theorem sideIndex_add_eq (h : layout.sideIndex a = other.sideIndex b) (steps : Int) :
    layout.sideIndex (a + steps) = other.sideIndex (b + steps) := by
  unfold sideIndex at *
  omega

theorem sideIndex_add_rounds (layout : Layout) (side rounds : Int) :
    layout.sideIndex (side + 6 * rounds) = layout.sideIndex side := by
  unfold sideIndex
  omega

theorem borderEdge_add_rounds (layout : Layout) (side rounds : Int) :
    layout.borderEdge (side + 6 * rounds) = layout.borderEdge side := by
  unfold borderEdge
  omega

theorem sideIndex_flat (side : Int) : flat.sideIndex side = pointy.sideIndex (side + 1) := by
  change (side - 1 + 1) % 6 = (side + 1 - 1 + 0) % 6
  omega

theorem borderEdge_flat (side : Int) : flat.borderEdge side = pointy.borderEdge (side - 1) := by
  change (side - 1) % 6 = (side - 1 - 0) % 6
  omega

end Layout

/-! ### Sides that are drawn the same -/

/-- Two tracks of one kind and one gauge that start at the same index, each in its layout. -/
structure Track.Meets (layout other : Layout) (a b : Track) : Prop where
  index : layout.sideIndex a.start = other.sideIndex b.start
  kind : a.kind = b.kind
  gauge : a.gauge = b.gauge

/-- The hex with other tracks and other removed borders. -/
def Hex.withSides (h : Hex) (tracks : List Track) (borders : List Int64) : Hex :=
  { h with track := tracks, removedBorders := borders }

section Meets

variable {layout other : Layout}

theorem Track.Meets.segments {a b : Track} (h : a.Meets layout other b) (node : Option Nat) :
    a.segments layout node = b.segments other node := by
  have hcurve : a.curve = b.curve := congrArg Curve.ofKind h.kind
  have hgauge : a.shownGauge = b.shownGauge := congrArg (Option.filter (· ≠ "")) h.gauge
  have hfar (span : Nat) := Layout.sideIndex_add_eq h.index span
  have hends : a.ends layout node = b.ends other node := by
    simp only [Track.ends, hcurve, h.index, hfar]
  rw [Track.segments, Track.segments, hends, hgauge]

variable {h : Hex} {tracks : List Track} {borders : List Int64}

theorem pathSegments_withSides (htracks : List.Forall₂ (Track.Meets layout other) h.track tracks) :
    h.pathSegments layout = (h.withSides tracks borders).pathSegments other := by
  unfold Hex.pathSegments
  congr 1
  apply List.ext_getElem
  · rw [List.length_mapIdx, List.length_mapIdx]
    exact htracks.length_eq
  · intro index hindex hindex'
    rw [List.getElem_mapIdx, List.getElem_mapIdx]
    exact (htracks.get _ _).segments _

/-- Whether a hex is a junction depends on the kinds of its tracks, not on their sides. -/
theorem isJunction_withSides (htracks : List.Forall₂ (Track.Meets layout other) h.track tracks) :
    h.isJunction = (h.withSides tracks borders).isJunction := by
  have hkinds : h.track.map Track.kind = tracks.map Track.kind := by
    rw [← List.forall₂_eq_eq_eq, List.forall₂_map_left_iff, List.forall₂_map_right_iff]
    exact htracks.imp fun _ _ hmeets => hmeets.kind
  have hshown (h : Hex) : h.isJunction = (!(h.track.map Track.kind).isEmpty && !h.hasStops &&
      h.offboard.isNone && (h.track.map Track.kind).all Option.isNone) := by
    rw [Hex.isJunction, List.isEmpty_map, List.all_map]
    rfl
  rw [hshown, hshown, hkinds]
  rfl

theorem borderSegments_withSides
    (hborder : h.removedBorders.head?.map (layout.borderEdge ·.toInt) =
      borders.head?.map (other.borderEdge ·.toInt)) :
    h.borderSegments layout = (h.withSides tracks borders).borderSegments other := by
  have hshown (layout : Layout) (h : Hex) : h.borderSegments layout =
      (h.removedBorders.head?.map (layout.borderEdge ·.toInt)).toList.map Segment.border := by
    unfold Hex.borderSegments
    cases h.removedBorders <;> rfl
  rw [hshown, hshown, hborder]
  rfl

/-- A hex is encoded the same in two layouts if its tracks start at the same indices and its border is
left out at the same edge. -/
theorem encode_withSides (tables : Tables)
    (htracks : List.Forall₂ (Track.Meets layout other) h.track tracks)
    (hborder : h.removedBorders.head?.map (layout.borderEdge ·.toInt) =
      borders.head?.map (other.borderEdge ·.toInt)) :
    h.encode tables layout = (h.withSides tracks borders).encode tables other := by
  have hjunction : h.junctionSegments = (h.withSides tracks borders).junctionSegments := by
    rw [Hex.junctionSegments, isJunction_withSides htracks, Hex.junctionSegments]
  have hsegments : h.segments tables layout = (h.withSides tracks borders).segments tables other := by
    rw [Hex.segments, hjunction, pathSegments_withSides htracks, borderSegments_withSides hborder]
    rfl
  rw [Hex.encode, hsegments]
  rfl

end Meets

/-! ### Turns and rounds -/

/-- The track that starts one side later. -/
def Track.turned (track : Track) : Track := { track with side := some (track.side.getD 1 + 1) }

/-- The hex whose tracks start one side later and whose border is left out one side earlier. -/
def Hex.turned (h : Hex) : Hex :=
  h.withSides (h.track.map Track.turned) (h.removedBorders.modifyHead (· - 1))

/-- All sides of the hex are at least six away from the ends of the words. -/
structure Hex.HasInnerSides (h : Hex) : Prop where
  tracks : ∀ track ∈ h.track, -2 ^ 63 + 6 ≤ track.start ∧ track.start ≤ 2 ^ 63 - 7
  borders : ∀ side ∈ h.removedBorders, -2 ^ 63 + 6 ≤ side.toInt ∧ side.toInt ≤ 2 ^ 63 - 7

/-- The hex is encoded in words as it is in numbers, if its lists are as short as lists in memory are. -/
def Hex.EncodesInWords (tables : Tables) (layout : Layout) (h : Hex) : Prop :=
  h.values.length < 2 ^ 63 → h.track.length < 2 ^ 63 →
    h.encode? tables layout = some (h.encode tables layout)

/-- The side is some whole rounds further on or back. -/
def GoesRound (side further : Int) : Prop := ∃ rounds : Int, further = side + 6 * rounds

/-- The track is the same but that it starts some whole rounds further on or back. -/
structure Track.GoesRound (track further : Track) : Prop where
  start : Rail18.GoesRound track.start further.start
  kind : track.kind = further.kind
  gauge : track.gauge = further.gauge

theorem mem_modifyHead {α : Type} {f : α → α} {items : List α} {item : α}
    (h : item ∈ items.modifyHead f) : item ∈ items ∨ ∃ first ∈ items, item = f first := by
  cases items with
  | nil => cases h
  | cons first rest =>
      obtain rfl | hrest := List.mem_cons.mp h
      · exact .inr ⟨first, List.mem_cons_self, rfl⟩
      · exact .inl (List.mem_cons_of_mem _ hrest)

theorem toInt_add_one {side : Int64} (hhigh : side.toInt ≤ 2 ^ 63 - 2) :
    (side + 1).toInt = side.toInt + 1 := by
  have hlow := Int64.le_toInt side
  have hone : (1 : Int64).toInt = 1 := by decide
  rw [Int64.toInt_add, hone]
  exact Int.bmod_eq_of_le (by omega) (by omega)

theorem toInt_sub_one {side : Int64} (hlow : -2 ^ 63 + 1 ≤ side.toInt) :
    (side - 1).toInt = side.toInt - 1 := by
  have hhigh := Int64.toInt_lt side
  have hone : (1 : Int64).toInt = 1 := by decide
  rw [Int64.toInt_sub, hone]
  exact Int.bmod_eq_of_le (by omega) (by omega)

theorem Track.start_turned {track : Track} (hhigh : track.start ≤ 2 ^ 63 - 2) :
    track.turned.start = track.start + 1 :=
  toInt_add_one hhigh

theorem Track.meets_turned {track : Track} (hhigh : track.start ≤ 2 ^ 63 - 2) :
    track.Meets .flat .pointy track.turned where
  index := by rw [Layout.sideIndex_flat, Track.start_turned hhigh]
  kind := rfl
  gauge := rfl

theorem Track.GoesRound.meets {track further : Track} (h : track.GoesRound further) (layout : Layout) :
    track.Meets layout layout further where
  index := by
    obtain ⟨rounds, hrounds⟩ := h.start
    rw [hrounds, Layout.sideIndex_add_rounds]
  kind := h.kind
  gauge := h.gauge

theorem borderEdge_of_goesRound (layout : Layout) {borders further : List Int64}
    (h : List.Forall₂ (fun side further => GoesRound side.toInt further.toInt) borders further) :
    borders.head?.map (layout.borderEdge ·.toInt) = further.head?.map (layout.borderEdge ·.toInt) := by
  cases h with
  | nil => rfl
  | cons hround _ =>
      obtain ⟨rounds, hrounds⟩ := hround
      simp [hrounds, Layout.borderEdge_add_rounds]

namespace Hex

variable {h : Hex}

theorem encode_flat_eq_turned (tables : Tables) (hinner : h.HasInnerSides) :
    h.encode tables .flat = h.turned.encode tables .pointy := by
  apply encode_withSides
  · rw [List.forall₂_map_right_iff, List.forall₂_same]
    intro track htrack
    exact Track.meets_turned (by have := hinner.tracks track htrack; omega)
  · cases hremoved : h.removedBorders with
    | nil => rfl
    | cons side rest =>
        have hside := hinner.borders side (hremoved ▸ List.mem_cons_self)
        have hone : (side - 1).toInt = side.toInt - 1 := toInt_sub_one (by omega)
        simp [hone, Layout.borderEdge_flat]

/-- A hex is encoded in words if there is room for the span of its tracks and for one turn. -/
theorem encodesInWords_of_room (tables : Tables) (layout : Layout)
    (htracks : ∀ track ∈ h.track, -2 ^ 63 + 1 ≤ track.start ∧ track.start ≤ 2 ^ 63 - 4)
    (hborders : ∀ side ∈ h.removedBorders, -2 ^ 63 + 1 ≤ side.toInt) :
    h.EncodesInWords tables layout := by
  intro hvalues hcount
  have hlimit := Word.signedLimit_eq
  have hsize : UInt64.size = 2 ^ 64 := rfl
  apply encode?_eq_some _ _ _ _ (by omega) (by omega)
  · intro track htrack
    have hroom := htracks track htrack
    exact ⟨by omega, by omega⟩
  · intro side hside
    have hroom := hborders side hside
    omega

theorem HasInnerSides.encodesInWords (hinner : h.HasInnerSides) (tables : Tables) (layout : Layout) :
    h.EncodesInWords tables layout := by
  apply encodesInWords_of_room
  · intro track htrack
    have htrackInner := hinner.tracks track htrack
    omega
  · intro side hside
    have hsideInner := hinner.borders side hside
    omega

/-- One turn does not bring a side too near the ends of the words. -/
theorem HasInnerSides.encodesInWords_turned (hinner : h.HasInnerSides) (tables : Tables)
    (layout : Layout) : h.turned.EncodesInWords tables layout := by
  apply encodesInWords_of_room
  · intro track hmem
    obtain ⟨original, htrack, rfl⟩ := List.mem_map.mp hmem
    have horiginal := hinner.tracks original htrack
    rw [Track.start_turned (by omega)]
    omega
  · intro side hmem
    obtain hkept | ⟨first, hfirst, rfl⟩ := mem_modifyHead hmem
    · have hside := hinner.borders side hkept
      omega
    · have hside := hinner.borders first hfirst
      rw [toInt_sub_one (by omega)]
      omega

theorem encode_of_goesRound (tables : Tables) (layout : Layout) {tracks : List Track}
    {borders : List Int64} (hround : List.Forall₂ Track.GoesRound h.track tracks)
    (hborder : List.Forall₂ (fun side further => GoesRound side.toInt further.toInt)
      h.removedBorders borders) :
    (h.withSides tracks borders).encode tables layout = h.encode tables layout := by
  have hmeets := hround.imp fun _ _ hgoes => Track.GoesRound.meets hgoes layout
  exact (encode_withSides tables hmeets (borderEdge_of_goesRound layout hborder)).symm

/-- A hex whose sides are all at least six away from the ends of the words. Standing flat it is encoded as
the hex turned by one side is when standing on a point. In either layout, it is encoded as every such hex
is whose tracks and removed borders are the same but that their sides are counted on by whole rounds. No
sum leaves the range of words on the way. -/
theorem encode_turned (tables : Tables) {h : Hex} (hinner : h.HasInnerSides) :
    h.encode tables .flat = h.turned.encode tables .pointy ∧
      h.EncodesInWords tables .flat ∧ h.turned.EncodesInWords tables .pointy ∧
      ∀ layout tracks borders, List.Forall₂ Track.GoesRound h.track tracks →
        List.Forall₂ (fun side further => GoesRound side.toInt further.toInt) h.removedBorders borders →
        (h.withSides tracks borders).HasInnerSides →
        (h.withSides tracks borders).encode tables layout = h.encode tables layout ∧
          (h.withSides tracks borders).EncodesInWords tables layout := by
  have hwords := hinner.encodesInWords tables .flat
  have hturnedWords := hinner.encodesInWords_turned tables .pointy
  refine ⟨encode_flat_eq_turned tables hinner, hwords, hturnedWords, ?_⟩
  intro layout tracks borders hround hborder hfurther
  exact ⟨encode_of_goesRound tables layout hround hborder, hfurther.encodesInWords tables layout⟩

end Hex

/-- A track from a side before the first, one from no side, one from a side far on, and two removed
borders. -/
def turntable : Hex where
  values := [.number 20, .number 30]
  track := [{ kind := some "sharp", side := some (-1), gauge := some "narrow" }, { kind := some "gentle" },
    { side := some 9223372036854775800 }]
  removedBorders := [0, -9223372036854775802]

/-- The tracks of the turntable, counted on or back by whole rounds. -/
def turntableTracks : List Track :=
  [{ kind := some "sharp", side := some 5, gauge := some "narrow" }, { kind := some "gentle", side := some 13 },
    { side := some 0 }]

theorem Hex.encode_turned_turntable :
    turntable.turned.track.map Track.side = [some 0, some 2, some 9223372036854775801] ∧
      turntable.turned.removedBorders = [-1, -9223372036854775802] ∧
      turntable.encode .standard .flat = turntable.turned.encode .standard .pointy ∧
      turntable.encode? .standard .flat = some (turntable.encode .standard .flat) ∧
      turntable.turned.encode? .standard .pointy = some (turntable.turned.encode .standard .pointy) ∧
      (turntable.withSides turntableTracks [6, 4]).encode .standard .pointy =
        turntable.encode .standard .pointy ∧
      (turntable.withSides turntableTracks [6, 4]).encode? .standard .pointy =
        some ((turntable.withSides turntableTracks [6, 4]).encode .standard .pointy) := by
  have hinner : turntable.HasInnerSides := by
    refine ⟨by decide, ?_⟩
    have hremoved : turntable.removedBorders = [0, -9223372036854775802] := rfl
    rw [hremoved, List.forall_mem_cons, List.forall_mem_singleton]
    decide
  have hfurther : (turntable.withSides turntableTracks [6, 4]).HasInnerSides := by
    refine ⟨by decide, ?_⟩
    have hremoved : (turntable.withSides turntableTracks [6, 4]).removedBorders = [6, 4] := rfl
    rw [hremoved, List.forall_mem_cons, List.forall_mem_singleton]
    decide
  have htracks : List.Forall₂ Track.GoesRound turntable.track turntableTracks :=
    .cons ⟨⟨1, rfl⟩, rfl, rfl⟩ (.cons ⟨⟨2, rfl⟩, rfl, rfl⟩
      (.cons ⟨⟨-1537228672809129300, rfl⟩, rfl, rfl⟩ .nil))
  have hborders : List.Forall₂ (fun side further : Int64 => GoesRound side.toInt further.toInt)
      turntable.removedBorders [6, 4] :=
    .cons ⟨1, rfl⟩ (.cons ⟨1537228672809129301, rfl⟩ .nil)
  obtain ⟨hturned, hwords, hturnedWords, hrounds⟩ := Hex.encode_turned .standard hinner
  obtain ⟨hround, hroundWords⟩ := hrounds .pointy turntableTracks [6, 4] htracks hborders hfurther
  exact ⟨rfl, rfl, hturned, hwords (by decide) (by decide), hturnedWords (by decide) (by decide),
    hround, hroundWords (by decide) (by decide)⟩

end Rail18
