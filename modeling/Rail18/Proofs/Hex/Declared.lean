import Rail18.Proofs.Hex.Copies
import Rail18.Proofs.Json.Members

/-!
# What a hex declares

A hex that copies another is laid over it as it would be written again, not as it was written. A member
that stands for nothing (null, false or an empty list) is not written again, so it declares nothing and
what the copied hex has stays. The revenues of an off-board area are always written again, so an area
that does not mention them still takes those of the copied hex away.
-/

namespace Rail18

open Json (Declares Defaults Fields Reader Record Value VoidByDefault)

/-! ### Entries -/

instance : Defaults OffboardField where
  entry
    | .revenues => ([] : List PhaseRevenue)
    | .hidden => false
    | .groups => ([] : List String)
    | .name => (none : Option String)

def Offboard.entry (o : Offboard) : (field : OffboardField) → Fields.Entry field
  | .revenues => o.revenues
  | .hidden => o.hidden
  | .groups => o.groups
  | .name => o.name

instance : Defaults HexField where
  entry
    | .color | .encoding | .copy => (none : Option String)
    | .coords | .labels => ([] : List String)
    | .cities | .towns | .centerTowns => ([] : List Stop)
    | .offboard => (none : Option Offboard)
    | .track => ([] : List Track)
    | .terrain => ([] : List Terrain)
    | .removedBorders => ([] : List Int64)
    | .values => ([] : List Amount)
    | .broken => false
    | .variation => (none : Option UInt64)

def Hex.entry (h : Hex) : (field : HexField) → Fields.Entry field
  | .color => h.color
  | .coords => h.coords
  | .encoding => h.encoding
  | .cities => h.cities
  | .towns => h.towns
  | .centerTowns => h.centerTowns
  | .offboard => h.offboard
  | .track => h.track
  | .terrain => h.terrain
  | .labels => h.labels
  | .removedBorders => h.removedBorders
  | .values => h.values
  | .copy => h.copy
  | .broken => h.broken
  | .variation => h.variation

/-! ### Fields that are void by default -/

theorem Json.Reader.sole_substantial (name : String) {α : Type} (read : Reader α) :
    Reader.Substantial (Reader.sole name read) := by
  intro room value item h
  cases value with
  | object members => rfl
  | array values =>
      cases values with
      | cons first rest => rfl
      | nil => cases room <;> cases h
  | _ => cases room <;> cases h

theorem OffboardField.voidByDefault (field : OffboardField) : VoidByDefault field := by
  intro room value entry h
  cases field with
  | revenues | groups => exact Reader.list_eq_nil_iff h
  | hidden => exact Reader.bool_eq_false_iff h
  | name => exact Reader.option_eq_none_iff (Reader.sole_substantial "name" .text) h

/-- An empty list in the place of an off-board area is an area without anything, not no area. -/
theorem HexField.voidByDefault {field : HexField} (hfield : field ≠ .offboard) : VoidByDefault field := by
  intro room value entry h
  cases field with
  | color | encoding | copy => exact Reader.option_eq_none_iff Reader.text_substantial h
  | coords | cities | towns | centerTowns | track | terrain | labels | removedBorders | values =>
      exact Reader.list_eq_nil_iff h
  | broken => exact Reader.bool_eq_false_iff h
  | variation => exact Reader.option_eq_none_iff (Reader.integer_substantial _) h
  | offboard => exact absurd rfl hfield

/-! ### What objects declare -/

theorem join_eq_getD {α : Type} (entry : Option (Option α)) : entry.join = entry.getD none := by
  cases entry <;> rfl

theorem Offboard.declares_iff {room : Nat} {members : List (String × Value)} {area : Offboard}
    (h : Offboard.read (room + 1) (Value.object members).node = .ok area) (field : OffboardField) :
    Declares members field ↔ area.entry field ≠ Defaults.entry field := by
  obtain ⟨record, hbuild, hread⟩ := Reader.record_object h
  obtain rfl := Except.ok.inj hbuild
  refine (Json.declares_iff (hread field) field.voidByDefault).trans (not_congr ?_)
  cases field with
  | revenues | hidden | groups => exact Iff.rfl
  | name => exact (join_eq_getD (record .name)).symm ▸ Iff.rfl

namespace Hex

variable {members : List (String × Value)} {h : Hex}

theorem exists_record (hread : (Value.object members).read Hex.read = .ok h) :
    ∃ record : Record HexField, (∀ field, h.entry field = record.entry field) ∧
      ∀ field, Record.ReadFrom 126 field (members.lookup (Fields.name field)) (record field) := by
  obtain ⟨record, hbuild, hfields⟩ := Reader.record_object hread
  obtain rfl := Except.ok.inj hbuild
  refine ⟨record, fun field => ?_, hfields⟩
  cases field with
  | color | encoding | offboard | copy | variation => exact join_eq_getD _
  | _ => rfl

theorem declares_iff (hread : (Value.object members).read Hex.read = .ok h) {field : HexField}
    (hfield : field ≠ .offboard) :
    Declares members field ↔ h.entry field ≠ Defaults.entry field := by
  obtain ⟨record, hentry, hfields⟩ := exists_record hread
  rw [hentry]
  exact Json.declares_iff (hfields field) (HexField.voidByDefault hfield)

theorem offboard_eq_none (hread : (Value.object members).read Hex.read = .ok h)
    (hnone : members.lookup "offBoardRevenue" = none ∨
      members.lookup "offBoardRevenue" = some .null) : h.offboard = none := by
  obtain ⟨record, hentry, hfields⟩ := exists_record hread
  have hfield := hfields .offboard
  rw [show h.offboard = record.entry .offboard from hentry .offboard, Record.entry]
  rcases hnone with hmissing | hnull
  · rw [show Fields.name HexField.offboard = "offBoardRevenue" from rfl, hmissing] at hfield
    rw [show record .offboard = none from hfield]
    rfl
  · rw [show Fields.name HexField.offboard = "offBoardRevenue" from rfl, hnull] at hfield
    obtain ⟨entry, hnone, hrecord⟩ := hfield
    obtain rfl := Except.ok.inj hnone
    rw [hrecord]
    rfl

/-- The off-board area of an object that has one, written as an object too. -/
theorem exists_offboard (hread : (Value.object members).read Hex.read = .ok h)
    {inner : List (String × Value)} (hinner : members.lookup "offBoardRevenue" = some (.object inner)) :
    ∃ area, h.offboard = some area ∧ Offboard.read 126 (Value.object inner).node = .ok area := by
  obtain ⟨record, hentry, hfields⟩ := exists_record hread
  have hfield := hfields .offboard
  rw [show Fields.name HexField.offboard = "offBoardRevenue" from rfl, hinner] at hfield
  obtain ⟨entry, hobject, hrecord⟩ := hfield
  change (Offboard.read 126 (Value.object inner).node).map some = .ok entry at hobject
  obtain ⟨area, harea, rfl⟩ := map_eq_ok.mp hobject
  refine ⟨area, ?_, harea⟩
  rw [show h.offboard = record.entry .offboard from hentry .offboard, Record.entry, hrecord]
  rfl

end Hex

/-! ### What is inherited -/

theorem Offboard.preferred_inherit (own base : Offboard) {field : OffboardField}
    (hfield : field ≠ .revenues) :
    Preferred (Defaults.entry field) (own.entry field) (base.entry field)
      ((own.inherit base).entry field) := by
  cases field with
  | revenues => exact absurd rfl hfield
  | hidden => exact preferred_flag ..
  | groups => exact preferred_inheritList ..
  | name => exact preferred_or ..

theorem Hex.preferred_inherit (own base : Hex) {field : HexField} (hcoords : field ≠ .coords)
    (hoffboard : field ≠ .offboard) :
    Preferred (Defaults.entry field) (own.entry field) (base.entry field)
      ((own.inherit base).entry field) := by
  cases field with
  | color | encoding | copy | variation => exact preferred_or ..
  | cities | towns | centerTowns | track | terrain | labels | removedBorders | values =>
      exact preferred_inheritList ..
  | broken => exact preferred_flag ..
  | coords => exact absurd rfl hcoords
  | offboard => exact absurd rfl hoffboard

/-- A hex written as an object takes from the hex that it copies what the object does not declare, except
for the coordinates, and of the off-board area what the area's object does not declare, except for the
revenues. Whatever is declared is kept. -/
theorem Hex.settle_declared {members : List (String × Value)} {own : Hex}
    (hown : (Value.object members).read Hex.read = .ok own) (base : Hex) :
    ∃ copied, Copies.settle own base = .ok copied ∧ copied.coords = own.coords ∧ copied.copy = none ∧
      (∀ field : HexField, field ≠ .coords → field ≠ .copy → field ≠ .offboard →
        (Declares members field → copied.entry field = own.entry field) ∧
          (¬ Declares members field → copied.entry field = base.entry field)) ∧
      (members.lookup "offBoardRevenue" = none ∨ members.lookup "offBoardRevenue" = some .null →
        copied.offboard = base.offboard) ∧
      ∀ inner, members.lookup "offBoardRevenue" = some (.object inner) →
        ∃ area ownArea, copied.offboard = some area ∧ own.offboard = some ownArea ∧
          area.revenues = ownArea.revenues ∧
          ∀ field : OffboardField, field ≠ .revenues →
            (Declares inner field → area.entry field = ownArea.entry field) ∧
              (¬ Declares inner field → area.entry field = (base.offboard.getD {}).entry field) := by
  have hsettle : Copies.settle own base = .ok { own.inherit base with copy := none } := by
    rw [Copies.settle, Hex.merge_eq_inherit]
    rfl
  refine ⟨_, hsettle, rfl, rfl, ?_, ?_, ?_⟩
  · intro field hcoords hcopy hoffboard
    have hentry : ({ own.inherit base with copy := none } : Hex).entry field =
        (own.inherit base).entry field := by
      cases field with
      | copy => exact absurd rfl hcopy
      | _ => rfl
    obtain ⟨hkept, htaken⟩ := own.preferred_inherit base hcoords hoffboard
    rw [hentry, Hex.declares_iff hown hoffboard]
    exact ⟨hkept, fun hvoid => htaken (not_not.mp hvoid)⟩
  · intro hnone
    change inheritOffboard own.offboard base.offboard = base.offboard
    rw [Hex.offboard_eq_none hown hnone]
    cases base.offboard <;> rfl
  · intro inner hinner
    obtain ⟨ownArea, hoffboard, hread⟩ := Hex.exists_offboard hown hinner
    change ∃ area ownArea, inheritOffboard own.offboard base.offboard = some area ∧ _
    rw [hoffboard]
    cases base.offboard with
    | none =>
        -- There is nothing to inherit, and what is not declared is void on both sides.
        refine ⟨ownArea, ownArea, rfl, rfl, rfl, fun field hfield => ⟨fun _ => rfl, fun hvoid => ?_⟩⟩
        rw [Offboard.declares_iff hread, not_not] at hvoid
        rw [hvoid]
        cases field <;> rfl
    | some area =>
        refine ⟨ownArea.inherit area, ownArea, rfl, rfl, rfl, fun field hfield => ?_⟩
        obtain ⟨hkept, htaken⟩ := ownArea.preferred_inherit area hfield
        rw [Offboard.declares_iff hread]
        exact ⟨hkept, fun hvoid => htaken (not_not.mp hvoid)⟩

/-! ### An area without revenues of its own -/

/-- A broken hex at the edge of a board, as it is written. -/
def west : List (String × Value) :=
  [("hexes", .strings ["A1"]), ("broken", .bool true),
    ("offBoardRevenue", .object
      [("revenues", .array [.object [("color", .string "yellow"), ("value", .integer 30)]]),
        ("groups", .strings ["West"])])]

/-- A hex that copies it, is not broken and hides its revenue. -/
def hiddenWest : List (String × Value) :=
  [("hexes", .strings ["B1"]), ("copy", .string "A1"), ("broken", .bool false),
    ("offBoardRevenue", .object [("hidden", .bool true)])]

def westHex : Hex where
  coords := ["A1"]
  broken := true
  offboard := some
    { revenues := [{ color := some "yellow", value := some (.number 30) }], groups := ["West"] }

def hiddenWestHex : Hex where
  coords := ["B1"]
  copy := some "A1"
  offboard := some { hidden := true }

theorem Hex.settle_declared_hiddenWest :
    (Value.object hiddenWest).read Hex.read = .ok hiddenWestHex ∧
      ∃ copied area, Copies.settle hiddenWestHex westHex = .ok copied ∧ copied.coords = ["B1"] ∧
        copied.offboard = some area ∧ area.hidden = true ∧ area.groups = ["West"] := by
  have hread : (Value.object hiddenWest).read Hex.read = .ok hiddenWestHex := rfl
  obtain ⟨copied, hsettle, hcoords, -, -, -, harea⟩ := Hex.settle_declared hread westHex
  obtain ⟨area, ownArea, harea, hown, -, hfields⟩ := harea [("hidden", .bool true)] rfl
  obtain rfl := Option.some.inj hown
  have hhidden := (hfields .hidden (by decide)).1 ⟨.bool true, rfl, rfl⟩
  have hgroups := (hfields .groups (by decide)).2 (by rintro ⟨value, ⟨⟩, -⟩)
  exact ⟨hread, copied, area, hsettle, hcoords, harea, hhidden, hgroups⟩

/-- An area that does not mention revenues takes the inherited ones away, and a hex that says that it is
not broken inherits that it is. -/
theorem Hex.settle_loses_revenues :
    (Value.object west).read Hex.read = .ok westHex ∧
      (Value.object hiddenWest).read Hex.read = .ok hiddenWestHex ∧
      ∃ copied, Copies.settle hiddenWestHex westHex = .ok copied ∧
        hiddenWest.lookup "offBoardRevenue" = some (.object [("hidden", .bool true)]) ∧
        westHex.offboard.map (·.revenues.length) = some 1 ∧
        copied.offboard.map (·.revenues) = some [] ∧
        hiddenWest.lookup "broken" = some (.bool false) ∧ copied.broken = true := by
  refine ⟨rfl, rfl, { hiddenWestHex.inherit westHex with copy := none }, ?_, rfl, rfl, rfl, rfl, rfl⟩
  rw [Copies.settle, Hex.merge_eq_inherit]
  rfl

end Rail18
