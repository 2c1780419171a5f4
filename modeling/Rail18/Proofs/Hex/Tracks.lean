import Mathlib.Data.List.Forall2
import Rail18.Proofs.Hex.Encoding
import Rail18.Proofs.Word

/-!
# The paths of tracks

A track from side to side draws one path, or two where it passes a node on the way, and any other track
one path into a node. The sides of a path are counted from zero to five, the lower first, and lie as far
apart as the track spans, one way round the hex or the other.

The sides that tracks start from are words of 64 bits, and the sums on the way to the indices could leave
their range. The paths are the same in words (`Hex.pathSegments?`) unless a side is too near their ends.
-/

namespace Rail18

/-! ### The sides of a path -/

/-- A track that spans some sides runs between two of the indices, of which the lower is named first. -/
structure Track.Crosses (layout : Layout) (track : Track) (span : Nat) (x y : Int) : Prop where
  nonneg : 0 ≤ x
  lt : x < y
  le_five : y ≤ 5
  apart : y - x = span ∨ y - x = 6 - span
  ends : x = layout.sideIndex track.start ∧ y = layout.sideIndex (track.start + span) ∨
    x = layout.sideIndex (track.start + span) ∧ y = layout.sideIndex track.start

theorem Layout.sideIndex_add (layout : Layout) (side : Int) {span : Nat} (h : span < 6) :
    layout.sideIndex (side + span) = layout.sideIndex side + span ∨
      layout.sideIndex (side + span) = layout.sideIndex side + span - 6 := by
  unfold Layout.sideIndex
  omega

theorem Track.crosses_min_max (layout : Layout) {track : Track} {span : Nat}
    (hspan : track.curve.span = some span) :
    track.Crosses layout span
      (min (layout.sideIndex track.start) (layout.sideIndex (track.start + span)))
      (max (layout.sideIndex track.start) (layout.sideIndex (track.start + span))) := by
  have hsome := Curve.span_mem hspan
  have hnonneg := layout.sideIndex_nonneg track.start
  have hlt := layout.sideIndex_lt track.start
  have hnonneg' := layout.sideIndex_nonneg (track.start + span)
  have hlt' := layout.sideIndex_lt (track.start + span)
  -- The second index is past the first, unless the track runs over the first side again.
  obtain hnext | hround := layout.sideIndex_add track.start (show span < 6 by omega)
  · have hle : layout.sideIndex track.start ≤ layout.sideIndex (track.start + span) := by omega
    rw [min_eq_left hle, max_eq_right hle]
    exact ⟨hnonneg, by omega, by omega, .inl (by omega), .inl ⟨rfl, rfl⟩⟩
  · have hle : layout.sideIndex (track.start + span) ≤ layout.sideIndex track.start := by omega
    rw [min_eq_right hle, max_eq_left hle]
    exact ⟨hnonneg', by omega, by omega, .inr (by omega), .inr ⟨rfl, rfl⟩⟩

theorem Track.staysInWords_iff {track : Track} :
    track.StaysInWords ↔ -2 ^ 63 + 1 ≤ track.start ∧ track.start ≤ 2 ^ 63 - 4 := by
  rw [Track.StaysInWords, Word.signedLimit_eq]
  omega

/-! ### The texts of a track's paths -/

/-- What is said of the gauge of a track, if it has one that is not empty. -/
def Track.gaugeText (track : Track) : String :=
  match track.gauge with
  | none | some "" => ""
  | some gauge => ",track:" ++ gauge

theorem Track.renderGauge_shownGauge (track : Track) :
    Segment.renderGauge track.shownGauge = track.gaugeText := by
  unfold Track.shownGauge Track.gaugeText
  split
  · next hgauge => rw [hgauge]; rfl
  · next hgauge => rw [hgauge]; rfl
  · next gauge hfull hgauge =>
      have hkept : gauge ≠ "" := hfull
      rw [hgauge, Option.filter_some_pos (by simpa using hkept)]
      rfl

def Track.pathText (track : Track) (a b : String) : String :=
  "path=a:" ++ a ++ ",b:" ++ b ++ track.gaugeText

theorem Track.render_path (track : Track) (a b : PathEnd) :
    (Segment.path a b track.shownGauge).render = track.pathText a.render b.render := by
  change "path=" ++ ("a:" ++ a.render ++ ",b:" ++ b.render) ++ Segment.renderGauge track.shownGauge = _
  rw [track.renderGauge_shownGauge, Track.pathText]
  apply String.toList_injective
  simp

/-- The texts that the track at an index draws, where some places pay: a path between two sides, two paths
by way of the node whose turn it is, or one path into that node, or into the first if there are no turns. -/
inductive Track.Draws (layout : Layout) (locations index : Nat) (track : Track) :
    List String → Prop where
  | across {span : Nat} {x y : Int} (hspan : track.curve.span = some span) (hfew : locations ≤ 1)
      (hsides : track.Crosses layout span x y) :
      Draws layout locations index track [track.pathText (toString x) (toString y)]
  | through {span : Nat} {x y : Int} (hspan : track.curve.span = some span) (hmany : 1 < locations)
      (hsides : track.Crosses layout span x y) :
      Draws layout locations index track
        [track.pathText (toString x) ("_" ++ toString (index % locations)),
          track.pathText ("_" ++ toString (index % locations)) (toString y)]
  | into {x : Int} (hspan : track.curve.span = none) (hnonneg : 0 ≤ x) (hle : x ≤ 5)
      (hside : x = layout.sideIndex track.start) :
      Draws layout locations index track
        [track.pathText (toString x)
          ("_" ++ toString (if 1 < locations then index % locations else 0))]

theorem Hex.draws_segments (layout : Layout) (h : Hex) (index : Nat) (track : Track) :
    track.Draws layout h.revenueLocations index
      ((track.segments layout (h.trackNode index)).map Segment.render) := by
  unfold Track.segments Track.ends Hex.trackNode
  cases hspan : track.curve.span with
  | none =>
      have hnonneg := layout.sideIndex_nonneg track.start
      have hlt := layout.sideIndex_lt track.start
      have hinto : track.Draws layout h.revenueLocations index
          [track.pathText (toString (layout.sideIndex track.start))
            ("_" ++ toString (if 1 < h.revenueLocations then index % h.revenueLocations else 0))] :=
        .into hspan hnonneg (by omega) rfl
      by_cases hmany : 1 < h.revenueLocations
      · simp only [hmany, if_true, List.map_cons, List.map_nil, Track.render_path] at hinto ⊢
        exact hinto
      · simp only [hmany, if_false, List.map_cons, List.map_nil, Track.render_path] at hinto ⊢
        exact hinto
  | some span =>
      have hsides := Track.crosses_min_max layout hspan
      by_cases hmany : 1 < h.revenueLocations
      · simp only [hmany, if_true, List.map_cons, List.map_nil, Track.render_path]
        exact .through hspan hmany hsides
      · simp only [hmany, if_false, List.map_cons, List.map_nil, Track.render_path]
        exact .across hspan (by omega) hsides

/-! ### The paths of an encoding -/

theorem FeatureKind.ofText_of_path {s : String} (h : "path=".toList <+: s.toList) :
    FeatureKind.ofText s = .path := by
  obtain ⟨rest, hrest⟩ := h
  rw [FeatureKind.ofText, ← hrest]
  rfl

/-- The texts of paths stand together in the text of the features, and no other text begins as they do. -/
theorem Features.exists_render_eq (features : Features) :
    ∃ before after : List String,
      features.render = ";".intercalate (before ++ features.texts .path ++ after) ∧
        ∀ text ∈ before ++ after, ¬ "path=".toList <+: text.toList := by
  refine ⟨[.junction, .offboard, .city, .town].flatMap features.texts,
    [.label, .terrain, .border].flatMap features.texts, ?_, ?_⟩
  · simp [Features.render, FeatureKind.all]
  · intro text htext hpath
    rw [← List.flatMap_append] at htext
    obtain ⟨kind, hkind, htext⟩ := List.mem_flatMap.mp htext
    have hsame : kind = .path :=
      (features.ofText_texts kind text htext).symm.trans (FeatureKind.ofText_of_path hpath)
    subst hsame
    revert hkind
    decide

/-- The paths of a hex without an encoding of its own, none of whose sides is too near the ends of the
words. Its encoding lists, between texts of other kinds, what each of its tracks draws, in their order.
No sum on the way leaves the range of words, and nothing is divided by zero, for lists of fewer than 2^63
items, as all in memory are. -/
theorem Hex.paths_of_encode (tables : Tables) (layout : Layout) {h : Hex} (hencoding : h.encoding = none)
    (hsides : ∀ track ∈ h.track, -2 ^ 63 + 1 ≤ track.start ∧ track.start ≤ 2 ^ 63 - 4) :
    ∃ (before after : List String) (drawn : List (List String)),
      h.encode tables layout = ";".intercalate (before ++ drawn.flatten ++ after) ∧
        (∀ text ∈ before ++ after, ¬ "path=".toList <+: text.toList) ∧
        List.Forall₂ (fun item texts => item.1.Draws layout h.revenueLocations item.2 texts)
          h.track.zipIdx drawn ∧
        (h.values.length < 2 ^ 63 → h.track.length < 2 ^ 63 →
          (h.pathSegments? layout).map (·.map Segment.render) = some drawn.flatten) := by
  let drawn := h.track.zipIdx.map fun item =>
    (item.1.segments layout (h.trackNode item.2)).map Segment.render
  have hdrawn : (h.pathSegments layout).map Segment.render = drawn.flatten := by
    rw [Hex.pathSegments, List.mapIdx_eq_zipIdx_map, List.map_flatten, List.map_map]
    rfl
  obtain ⟨before, after, hrender, hothers⟩ := (h.features tables layout).exists_render_eq
  rw [← map_render_pathSegments tables layout h, hdrawn] at hrender
  refine ⟨before, after, drawn, ?_, hothers, ?_, ?_⟩
  · exact (h.encode_eq_render tables layout hencoding).trans hrender
  · rw [List.forall₂_map_right_iff, List.forall₂_same]
    exact fun item _ => h.draws_segments layout item.2 item.1
  · intro hvalues htracks
    have hstays : ∀ track ∈ h.track, track.StaysInWords := fun track htrack =>
      Track.staysInWords_iff.mpr (hsides track htrack)
    have hsize : UInt64.size = 2 ^ 64 := rfl
    rw [Hex.pathSegments?_eq_some layout hstays (by omega) (by omega), Option.map_some, hdrawn]

/-- Two tracks at the ends of the range of sides, on a hex with two values. -/
def farSides : Hex where
  values := [.number 20, .number 30]
  track := [{ kind := some "gentle", side := some 9223372036854775804, gauge := some "narrow" },
    { side := some (-9223372036854775807) }]

theorem Hex.paths_of_encode_farSides :
    farSides.encode .standard .pointy =
        "path=a:3,b:_0,track:narrow;path=a:_0,b:5,track:narrow;path=a:4,b:_1" ∧
      ∃ drawn : List (List String),
        List.Forall₂ (fun item texts => item.1.Draws .pointy 2 item.2 texts)
          farSides.track.zipIdx drawn ∧
        (farSides.pathSegments? .pointy).map (·.map Segment.render) = some drawn.flatten := by
  have hsides : ∀ track ∈ farSides.track, -2 ^ 63 + 1 ≤ track.start ∧ track.start ≤ 2 ^ 63 - 4 := by
    decide
  obtain ⟨-, -, drawn, -, -, hdraws, hwords⟩ := Hex.paths_of_encode .standard .pointy rfl hsides
  exact ⟨rfl, drawn, hdraws, hwords (by decide) (by decide)⟩

end Rail18
