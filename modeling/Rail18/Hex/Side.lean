import Rail18.Hex.Basic
import Rail18.Word

/-! # Sides

Definitions number the sides of a hex from one; drawings count them from zero. Where the first side
lies depends on whether the hexes of the board stand flat or on a point.

Declared sides are words of 64 bits, and the indices are sums of integers here. Next to each stands the
same sum in words, which fails where it leaves their range, and the sides for which the two agree. -/

namespace Rail18

/-- How the hexes of a board stand. -/
inductive Layout where
  | flat
  | pointy
deriving DecidableEq, Repr

namespace Layout

/-- How far the sides of a layout are turned. -/
def turn : Layout → Int
  | flat => 1
  | pointy => 0

def name : Layout → String
  | flat => "flat"
  | pointy => "pointy"

/-- The index of a declared side, from zero to five. -/
def sideIndex (layout : Layout) (side : Int) : Int := (side - 1 + layout.turn) % 6

/-- The edge without a border, for a declared side. -/
def borderEdge (layout : Layout) (side : Int) : Int := (side - layout.turn) % 6

/-- The index of a declared side, in words. -/
def sideIndex? (layout : Layout) (side : Int64) : Option Int64 := do
  let before ← Word.sub? side 1
  let turned ← Word.add? before (.ofInt layout.turn)
  Word.emod? turned 6

/-- The edge without a border, in words. -/
def borderEdge? (layout : Layout) (side : Int64) : Option Int64 := do
  let turned ← Word.sub? side (.ofInt layout.turn)
  Word.emod? turned 6

theorem turn_bounds (layout : Layout) : 0 ≤ layout.turn ∧ layout.turn ≤ 1 := by
  cases layout <;> decide

theorem toInt_turn (layout : Layout) : (Int64.ofInt layout.turn).toInt = layout.turn := by
  cases layout <;> decide

theorem sideIndex_nonneg (layout : Layout) (side : Int) : 0 ≤ layout.sideIndex side := by
  unfold sideIndex; omega

theorem sideIndex_lt (layout : Layout) (side : Int) : layout.sideIndex side < 6 := by
  unfold sideIndex; omega

theorem exists_sideIndex? (layout : Layout) {side : Int64} (hlow : -Word.signedLimit < side.toInt) :
    ∃ index, layout.sideIndex? side = some index ∧ index.toInt = layout.sideIndex side.toInt := by
  have hhigh := Word.toInt_lt side
  have hone : (1 : Int64).toInt = 1 := by decide
  have hsix : (6 : Int64).toInt = 6 := by decide
  have hturn := layout.toInt_turn
  have hbounds := layout.turn_bounds
  obtain ⟨before, hbefore, hbeforeValue⟩ : ∃ before, Word.sub? side 1 = some before ∧ _ :=
    Word.exists_sub? (by omega) (by omega)
  obtain ⟨turned, hturned, hturnedValue⟩ :
      ∃ turned, Word.add? before (.ofInt layout.turn) = some turned ∧ _ :=
    Word.exists_add? (by omega) (by omega)
  obtain ⟨index, hindex, hindexValue⟩ := Word.exists_emod? turned (show 0 < (6 : Int64).toInt by omega)
  refine ⟨index, ?_, ?_⟩
  · simp [sideIndex?, hbefore, hturned, hindex]
  · rw [hindexValue, hturnedValue, hbeforeValue, hone, hsix, hturn, sideIndex]

/-- A side has its index in words unless it is the least of all words. -/
theorem sideIndex?_eq_some_iff (layout : Layout) {side index : Int64} :
    layout.sideIndex? side = some index ↔
      -Word.signedLimit < side.toInt ∧ index.toInt = layout.sideIndex side.toInt := by
  refine Word.eq_some_iff_of_exists layout.exists_sideIndex? fun h => ?_
  obtain ⟨before, hbefore, -⟩ := Option.bind_eq_some_iff.mp h
  have hvalue := Word.sub?_eq_some_iff.mp hbefore
  have hone : (1 : Int64).toInt = 1 := by decide
  have hleast := Word.le_toInt before
  omega

theorem exists_borderEdge? (layout : Layout) {side : Int64}
    (hlow : -Word.signedLimit + layout.turn ≤ side.toInt) :
    ∃ edge, layout.borderEdge? side = some edge ∧ edge.toInt = layout.borderEdge side.toInt := by
  have hhigh := Word.toInt_lt side
  have hsix : (6 : Int64).toInt = 6 := by decide
  have hturn := layout.toInt_turn
  have hbounds := layout.turn_bounds
  obtain ⟨turned, hturned, hturnedValue⟩ :
      ∃ turned, Word.sub? side (.ofInt layout.turn) = some turned ∧ _ :=
    Word.exists_sub? (by omega) (by omega)
  obtain ⟨edge, hedge, hedgeValue⟩ := Word.exists_emod? turned (show 0 < (6 : Int64).toInt by omega)
  refine ⟨edge, ?_, ?_⟩
  · simp [borderEdge?, hturned, hedge]
  · rw [hedgeValue, hturnedValue, hsix, hturn, borderEdge]

/-- A side has its edge in words unless its layout turns it back past the least of all words. -/
theorem borderEdge?_eq_some_iff (layout : Layout) {side edge : Int64} :
    layout.borderEdge? side = some edge ↔
      -Word.signedLimit + layout.turn ≤ side.toInt ∧ edge.toInt = layout.borderEdge side.toInt := by
  refine Word.eq_some_iff_of_exists layout.exists_borderEdge? fun h => ?_
  obtain ⟨turned, hturned, -⟩ := Option.bind_eq_some_iff.mp h
  have hvalue := Word.sub?_eq_some_iff.mp hturned
  have hturn := layout.toInt_turn
  have hleast := Word.le_toInt turned
  omega

end Layout

/-- How a track bends between its two sides; a stub ends in the center. -/
inductive Curve where
  | sharp
  | gentle
  | straight
  | stub
deriving DecidableEq, Repr

namespace Curve

def ofKind : Option String → Curve
  | some "sharp" => sharp
  | some "gentle" => gentle
  | some "straight" => straight
  | _ => stub

/-- The number of sides from one end to the other. -/
def span : Curve → Option Nat
  | sharp => some 1
  | gentle => some 2
  | straight => some 3
  | stub => none

def name : Curve → String
  | sharp => "Sharp"
  | gentle => "Gentle"
  | straight => "Straight"
  | stub => "Stub"

theorem span_mem {curve : Curve} {span : Nat} (h : curve.span = some span) :
    1 ≤ span ∧ span ≤ 3 := by
  cases curve with
  | stub => cases h
  | sharp | gentle | straight =>
      obtain rfl := Option.some.inj h
      omega

end Curve

/-- The side that a track is declared to start from. -/
def Track.start (track : Track) : Int := (track.side.getD 1).toInt

def Track.curve (track : Track) : Curve := .ofKind track.kind

end Rail18
