import Rail18.Proofs.Hex.RoundTrip
import Rail18.Proofs.Json.Order

/-!
# The normal form of a hex

Reading a value as a hex and writing the hex again settles on one form of the value: fields stand in their
order, those that hold nothing are left out, and nothing else is in it. A hex is read back from its
normal form, and as well when the members of its objects have been put into another order, since no part
of a hex is read by a reader that minds their order.
-/

namespace Rail18

open Json (Record Value)
open Json.Reader

theorem Json.Reader.sole_orderless {α : Type} {read : Reader α} (h : Orderless read) (name : String) :
    Orderless (.sole name read) := by
  let fields : Json.Fields Unit :=
    { Entry := fun _ => α, order := [()], name := fun _ => name, read := fun _ => read }
  exact @record_orderless Unit α _ fields (fun _ => h) _

theorem Amount.read_orderless : Orderless Amount.read := by
  have hint : Plain int64 := integer_plain _
  have hplain : Plain Amount.read := oneOf_plain (by simp [hint.map, text_plain.map])
  exact hplain.orderless

theorem stopField_orderless : Record.Orderless StopField
  | .size => (integer_plain _).orderless.option
  | .groups | .companies => text_plain.orderless.list
  | .name => (sole_orderless text_plain.orderless _).option

theorem phaseRevenueField_orderless : Record.Orderless PhaseRevenueField
  | .color => text_plain.orderless.option
  | .value | .revenue | .cost => Amount.read_orderless.option

theorem offboardField_orderless : Record.Orderless OffboardField
  | .revenues => (record_orderless phaseRevenueField_orderless _).list
  | .hidden => bool_plain.orderless
  | .groups => text_plain.orderless.list
  | .name => (sole_orderless text_plain.orderless _).option

theorem trackField_orderless : Record.Orderless TrackField
  | .kind | .gauge => text_plain.orderless.option
  | .side => (integer_plain _).orderless.option

theorem terrainField_orderless : Record.Orderless TerrainField
  | .kind => text_plain.orderless.option
  | .cost => Amount.read_orderless.option

theorem hexField_orderless : Record.Orderless HexField
  | .color | .encoding | .copy => text_plain.orderless.option
  | .coords => text_plain.orderless.list
  | .cities | .towns | .centerTowns => (record_orderless stopField_orderless _).list
  | .offboard => (record_orderless offboardField_orderless _).option
  | .track => (record_orderless trackField_orderless _).list
  | .terrain => (record_orderless terrainField_orderless _).list
  | .labels => (sole_orderless text_plain.orderless _).list
  | .removedBorders => (integer_plain _).orderless.list
  | .values => (sole_orderless Amount.read_orderless _).list
  | .broken => bool_plain.orderless
  | .variation => (integer_plain _).orderless.option

theorem Hex.read_orderless : Orderless Hex.read := record_orderless hexField_orderless _

/-- What a value becomes that is read as a hex and written again. -/
def Hex.normalForm (value : Value) : Except Json.Fault Value := (value.read Hex.read).map Hex.toValue

/-- A hex is read back from what is written, in whatever order the members of its objects stand. So what
is written is a normal form: whatever is read as a hex and written again stays as it is when that is
repeated, and the values that stay as they are are those that are written. -/
theorem Hex.read_written :
    (∀ (hex : Hex) (value : Value), hex.toValue.Similar value → value.read Hex.read = .ok hex) ∧
    (∀ value normal, normalForm value = .ok normal → normalForm normal = .ok normal) ∧
    (∀ (document : Json.Document) normal, (document.read Hex.read).map toValue = .ok normal →
      normalForm normal = .ok normal) ∧
    ∀ value, normalForm value = .ok value ↔ ∃ hex : Hex, hex.toValue = value := by
  have hread (hex : Hex) : hex.toValue.read Hex.read = .ok hex := Hex.read_toValue 123 hex
  have hnormal (hex : Hex) : normalForm hex.toValue = .ok hex.toValue :=
    map_eq_ok.mpr ⟨hex, hread hex, rfl⟩
  refine ⟨fun hex value hsimilar => ?_, fun value normal h => ?_, fun document normal h => ?_,
    fun value => ⟨fun h => ?_, ?_⟩⟩
  · exact Hex.read_orderless _ _ _ hex hsimilar (hread hex)
  · obtain ⟨hex, -, rfl⟩ := map_eq_ok.mp h
    exact hnormal hex
  · obtain ⟨hex, -, rfl⟩ := map_eq_ok.mp h
    exact hnormal hex
  · obtain ⟨hex, -, hvalue⟩ := map_eq_ok.mp h
    exact ⟨hex, hvalue⟩
  · rintro ⟨hex, rfl⟩
    exact hnormal hex

/-- The members of a copy can be swapped, and a flag that is not set is dropped once. -/
theorem Hex.read_written_copy :
    let copied : Hex := { coords := ["A1"], copy := some "B3" }
    let coords := ("hexes", Value.array [.string "A1"])
    let source := ("copy", Value.string "B3")
    (Value.object [source, coords]).read Hex.read = .ok copied ∧
      normalForm (.object [("broken", .bool false), coords, source]) = .ok (.object [coords, source]) ∧
      normalForm (.object [coords, source]) = .ok (.object [coords, source]) := by
  intro copied coords source
  obtain ⟨hread, hnormal, -⟩ := Hex.read_written
  have hbroken : normalForm (.object [("broken", .bool false), coords, source]) =
      .ok (.object [coords, source]) := by rfl
  exact ⟨hread copied _ (.object (.swap coords source [])), hbroken, hnormal _ _ hbroken⟩

end Rail18
