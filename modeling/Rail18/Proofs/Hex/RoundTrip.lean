import Rail18.Hex.Writing
import Rail18.Proofs.Json.Record

/-!
# Hexes are read back as they were written

Each part of a hex, and the hex itself, survives being written and read. The lemmas on single readers
come first; each record then needs only its list of fields, and a field is read back by the lemma on
its form.
-/

namespace Rail18

open Json (Fields LawfulRecord Node Reader Record Value Written someIfSet someUnlessEmpty)

namespace Json.Reader

variable {α : Type}

theorem items_nodes_map {read : Reader α} {write : α → Value} {room : Nat}
    (h : ∀ item, read room (write item).node = .ok item) (list : List α) :
    items read room (nodes (list.map write)) = .ok list := by
  induction list with
  | nil => rfl
  | cons item rest ih => simp [nodes, items, h, ih, bind, Except.bind, pure, Except.pure]

theorem list_list {read : Reader α} {write : α → Value} {room : Nat}
    (h : ∀ item, read room (write item).node = .ok item) (list : List α) :
    Reader.list read (room + 1) (Value.list write list).node = .ok list := by
  simp [Reader.list, Value.list, Value.node, items_nodes_map h, Ending.keep, bind, Except.bind,
    pure, Except.pure]

theorem option_option {read : Reader α} {write : α → Value} {room : Nat}
    (h : ∀ item, read room (write item).node = .ok item) (hnull : ∀ item, write item ≠ .null)
    (entry : Option α) : Reader.option read room (Value.option write entry).node = .ok entry := by
  cases entry with
  | none => rfl
  | some item =>
      have hread := h item
      have hne := hnull item
      simp only [Value.option, Value.orNull, Option.map_some, Option.getD_some]
      cases hvalue : write item <;> simp_all [Reader.option, Value.node, Except.map]

theorem text_string (room : Nat) (text : String) :
    Reader.text room (Value.string text).node = .ok text := rfl

theorem bool_bool (room : Nat) (flag : Bool) : Reader.bool room (Value.bool flag).node = .ok flag :=
  rfl

theorem integer_integer {word? : Int → Option α} {value : Int} {word : α}
    (h : word? value = some word) (room : Nat) :
    Reader.integer word? room (Value.integer value).node = .ok word := by
  simp [Reader.integer, Value.integer, Value.node, h]

theorem int64_integer (room : Nat) (word : Int64) :
    Reader.int64 room (Value.integer word.toInt).node = .ok word :=
  integer_integer (Word.int64?_eq_some_iff.mpr rfl) room

theorem uint32_natural (room : Nat) (word : UInt32) :
    Reader.uint32 room (Value.natural word.toNat).node = .ok word :=
  integer_integer (Word.uint32?_eq_some_iff.mpr rfl) room

theorem uint64_natural (room : Nat) (word : UInt64) :
    Reader.uint64 room (Value.natural word.toNat).node = .ok word :=
  integer_integer (Word.uint64?_eq_some_iff.mpr rfl) room

theorem sole_named {read : Reader α} {room : Nat} {value : Value} {entry : α} (name : String)
    (h : read room value.node = .ok entry) :
    Reader.sole name read (room + 1) (named name value).node = .ok entry := by
  simp [Reader.sole, Reader.record, Reader.object, named, Value.node, Json.memberNodes,
    Record.readMembers, Record.field?, Fields.order, Fields.name, Fields.read, h, Record.empty,
    Record.set, Ending.keep, bind, Except.bind]

end Json.Reader

theorem Amount.read_toValue (room : Nat) (amount : Amount) :
    Amount.read room amount.toValue.node = .ok amount := by
  cases amount with
  | number value =>
      have hword := Reader.int64_integer room value
      simp only [Value.integer, Value.node] at hword
      simp [Amount.read, Amount.toValue, Reader.oneOf, Reader.firstOf, Reader.map, Value.integer,
        Value.node, Node.keep, hword, Except.map, Except.toOption, bind, Except.bind, pure,
        Except.pure]
  | text written => rfl

theorem Amount.toValue_ne_null (amount : Amount) : amount.toValue ≠ .null := by
  cases amount <;> simp [Amount.toValue, Value.integer]

theorem named_ne_null (name : String) (value : Value) : named name value ≠ .null := by
  simp [named]

theorem Json.Record.toValue_ne_null {F : Type} [DecidableEq F] [Fields F] [Written F]
    (record : Record F) : record.toValue ≠ .null := by
  simp [Record.toValue]

theorem join_map_some {α : Type} (entry : Option α) : (entry.map some).join = entry := by
  cases entry <;> rfl

theorem getD_someUnlessEmpty {α : Type} (list : List α) :
    (someUnlessEmpty list).getD [] = list := by
  cases list <;> rfl

theorem getD_someIfSet (flag : Bool) : (someIfSet flag).getD false = flag := by
  cases flag <;> rfl

instance : LawfulRecord StopField where
  depth := 1
  nodup_order := by decide
  field?_name field := by cases field <;> decide
  read_write
    | .size, entry, _ => Reader.option_option (Reader.uint32_natural _) (fun _ => nofun) entry
    | .groups, entry, _ => Reader.list_list (Reader.text_string _) entry
    | .companies, entry, _ => Reader.list_list (Reader.text_string _) entry
    | .name, entry, _ =>
        Reader.option_option (fun name => Reader.sole_named "name" (Reader.text_string _ name))
          (fun name => named_ne_null "name" _) entry

theorem Stop.read_toValue (room : Nat) (stop : Stop) :
    Stop.read (room + 2) stop.toValue.node = .ok stop := by
  refine (Reader.record_toValue _ stop.record room).trans ?_
  exact congrArg Except.ok ((Stop.mk.injEq ..).mpr ⟨join_map_some _, getD_someUnlessEmpty _,
    getD_someUnlessEmpty _, join_map_some _⟩)

instance : LawfulRecord PhaseRevenueField where
  depth := 0
  nodup_order := by decide
  field?_name field := by cases field <;> decide
  read_write
    | .color, entry, _ => Reader.option_option (Reader.text_string _) (fun _ => nofun) entry
    | .value, entry, _ | .revenue, entry, _ | .cost, entry, _ =>
        Reader.option_option (Amount.read_toValue _) Amount.toValue_ne_null entry

theorem PhaseRevenue.read_toValue (room : Nat) (revenue : PhaseRevenue) :
    PhaseRevenue.read (room + 1) revenue.toValue.node = .ok revenue := by
  refine (Reader.record_toValue _ revenue.record room).trans ?_
  exact congrArg Except.ok ((PhaseRevenue.mk.injEq ..).mpr ⟨join_map_some _, join_map_some _,
    join_map_some _, join_map_some _⟩)

instance : LawfulRecord OffboardField where
  depth := 2
  nodup_order := by decide
  field?_name field := by cases field <;> decide
  read_write
    | .revenues, entry, _ => Reader.list_list (PhaseRevenue.read_toValue _) entry
    | .hidden, entry, _ => Reader.bool_bool _ entry
    | .groups, entry, _ => Reader.list_list (Reader.text_string _) entry
    | .name, entry, _ =>
        Reader.option_option (fun name => Reader.sole_named "name" (Reader.text_string _ name))
          (fun name => named_ne_null "name" _) entry

theorem Offboard.read_toValue (room : Nat) (offboard : Offboard) :
    Offboard.read (room + 3) offboard.toValue.node = .ok offboard := by
  refine (Reader.record_toValue _ offboard.record room).trans ?_
  exact congrArg Except.ok ((Offboard.mk.injEq ..).mpr ⟨rfl, getD_someIfSet _,
    getD_someUnlessEmpty _, join_map_some _⟩)

instance : LawfulRecord TrackField where
  depth := 0
  nodup_order := by decide
  field?_name field := by cases field <;> decide
  read_write
    | .kind, entry, _ | .gauge, entry, _ =>
        Reader.option_option (Reader.text_string _) (fun _ => nofun) entry
    | .side, entry, _ => Reader.option_option (Reader.int64_integer _) (fun _ => nofun) entry

theorem Track.read_toValue (room : Nat) (track : Track) :
    Track.read (room + 1) track.toValue.node = .ok track := by
  refine (Reader.record_toValue _ track.record room).trans ?_
  exact congrArg Except.ok ((Track.mk.injEq ..).mpr ⟨join_map_some _, join_map_some _,
    join_map_some _⟩)

instance : LawfulRecord TerrainField where
  depth := 0
  nodup_order := by decide
  field?_name field := by cases field <;> decide
  read_write
    | .kind, entry, _ => Reader.option_option (Reader.text_string _) (fun _ => nofun) entry
    | .cost, entry, _ =>
        Reader.option_option (Amount.read_toValue _) Amount.toValue_ne_null entry

theorem Terrain.read_toValue (room : Nat) (terrain : Terrain) :
    Terrain.read (room + 1) terrain.toValue.node = .ok terrain := by
  refine (Reader.record_toValue _ terrain.record room).trans ?_
  exact congrArg Except.ok ((Terrain.mk.injEq ..).mpr ⟨join_map_some _, join_map_some _⟩)

instance : LawfulRecord HexField where
  depth := 3
  nodup_order := by decide
  field?_name field := by cases field <;> decide
  read_write
    | .color, entry, _ | .encoding, entry, _ | .copy, entry, _ =>
        Reader.option_option (Reader.text_string _) (fun _ => nofun) entry
    | .coords, entry, _ => Reader.list_list (Reader.text_string _) entry
    | .cities, entry, _ | .towns, entry, _ | .centerTowns, entry, _ =>
        Reader.list_list (Stop.read_toValue _) entry
    | .offboard, entry, _ =>
        Reader.option_option (Offboard.read_toValue _) (fun o => o.record.toValue_ne_null) entry
    | .track, entry, _ => Reader.list_list (Track.read_toValue _) entry
    | .terrain, entry, _ => Reader.list_list (Terrain.read_toValue _) entry
    | .labels, entry, _ =>
        Reader.list_list (fun label => Reader.sole_named "label" (Reader.text_string _ label)) entry
    | .removedBorders, entry, _ => Reader.list_list (Reader.int64_integer _) entry
    | .values, entry, _ =>
        Reader.list_list (fun value => Reader.sole_named "value" (value.read_toValue _)) entry
    | .broken, entry, _ => Reader.bool_bool _ entry
    | .variation, entry, _ =>
        Reader.option_option (Reader.uint64_natural _) (fun _ => nofun) entry

/-- A hex is read back as it was written. -/
theorem Hex.read_toValue (room : Nat) (hex : Hex) :
    Hex.read (room + 4) hex.toValue.node = .ok hex := by
  refine (Reader.record_toValue _ hex.record room).trans ?_
  exact congrArg Except.ok ((Hex.mk.injEq ..).mpr ⟨join_map_some _, rfl, join_map_some _,
    getD_someUnlessEmpty _, getD_someUnlessEmpty _, getD_someUnlessEmpty _, join_map_some _,
    getD_someUnlessEmpty _, getD_someUnlessEmpty _, getD_someUnlessEmpty _, getD_someUnlessEmpty _,
    getD_someUnlessEmpty _, join_map_some _, getD_someIfSet _, join_map_some _⟩)

end Rail18
