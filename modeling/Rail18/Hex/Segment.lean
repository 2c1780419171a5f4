import Rail18.Hex.Basic

/-! # Segments

The features of a hex as its encoding lists them, and the text of each. The text of an encoding is
the texts of its segments joined by semicolons. -/

namespace Rail18

/-- One entry of a revenue that depends on the phase. -/
inductive PhasePay where
  | diesel (cost : String)
  | colored (color : String) (amount : Amount)
deriving DecidableEq

/-- What a stop or an off-board area pays: one amount, or one for each phase. -/
inductive Revenue where
  | single (amount : Amount)
  | phased (entries : List PhasePay) (hidden : Bool)
deriving DecidableEq

/-- One end of a path: a side, or a node, which is a stop or an off-board area. -/
inductive PathEnd where
  | side (index : Int)
  | node (index : Nat)
deriving DecidableEq

/-- One feature of an encoding. -/
inductive Segment where
  | junction
  | offboard (revenue : Revenue) (groups : List String)
  | city (revenue : Revenue) (slots : Option Nat) (groups : List String)
  | town (revenue : Revenue) (groups : List String)
  | path (a b : PathEnd) (gauge : Option String)
  | label (text : String)
  | terrain (cost : Option Amount) (kinds : List String)
  | border (edge : Int)
deriving DecidableEq

namespace PhasePay

/-- The entry for a phase: the amount under its color, or a diesel's cost. -/
def ofRevenue (r : PhaseRevenue) : PhasePay :=
  match r.amount.dieselCost with
  | some cost => diesel cost
  | none => colored (r.color.getD "") r.amount

def render : PhasePay → String
  | diesel cost => "diesel_" ++ cost
  | colored color amount => color ++ "_" ++ amount.shown

end PhasePay

namespace Revenue

def ofOffboard (o : Offboard) : Revenue := phased (o.revenues.map .ofRevenue) o.hidden

def render : Revenue → String
  | single amount => amount.shown
  | phased entries hidden =>
    "|".intercalate (entries.map PhasePay.render) ++ if hidden then ",hide:1" else ""

end Revenue

def PathEnd.render : PathEnd → String
  | side index => toString index
  | node index => "_" ++ toString index

namespace Segment

def renderGroups (groups : List String) : String :=
  if groups.isEmpty then "" else ",groups:" ++ "|".intercalate groups

def renderSlots : Option Nat → String
  | some size => ",slots:" ++ toString size
  | none => ""

def renderEnds (a b : PathEnd) : String := "a:" ++ a.render ++ ",b:" ++ b.render

def renderGauge : Option String → String
  | some gauge => ",track:" ++ gauge
  | none => ""

def renderTerrain (cost : Option Amount) (kinds : List String) : String :=
  ",".intercalate <|
    (match cost with
      | some cost => ["upgrade=cost:" ++ cost.shown]
      | none => []) ++
    (if kinds.isEmpty then [] else ["terrain:" ++ "+".intercalate kinds])

def render : Segment → String
  | junction => "junction"
  | offboard revenue groups => "offboard=revenue:" ++ revenue.render ++ renderGroups groups
  | city revenue slots groups =>
    "city=revenue:" ++ revenue.render ++ renderSlots slots ++ renderGroups groups
  | town revenue groups => "town=revenue:" ++ revenue.render ++ renderGroups groups
  | path a b gauge => "path=" ++ renderEnds a b ++ renderGauge gauge
  | label text => "label=" ++ text
  | terrain cost kinds => renderTerrain cost kinds
  | border edge => "border=edge:" ++ toString edge

end Segment

def renderSegments (segments : List Segment) : String :=
  ";".intercalate (segments.map Segment.render)

end Rail18
