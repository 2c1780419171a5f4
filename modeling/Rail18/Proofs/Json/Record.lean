import Rail18.Json.Writer
import Rail18.Proofs.Json.Merge
import Rail18.Proofs.Outcome

/-!
# Reading back what was written

A record that is written as an object is read back field by field, and so is one object laid over
another: a field of the merged object holds the join of what the two hold. Readers walk the members
in their order, but because no name repeats the outcome depends only on what a lookup finds, which is
how the order drops out of everything that follows.
-/

namespace Rail18.Json

/-- The fields of a record that can be told apart by their names and whose entries are read back as
they were written, provided that enough containers may be opened inside one another. -/
class LawfulRecord (F : Type) [DecidableEq F] [Fields F] [Written F] where
  depth : Nat
  nodup_order : (Fields.order : List F).Nodup
  field?_name : ∀ field : F, Record.field? F (Fields.name field) = some field
  read_write : ∀ (field : F) (entry : Fields.Entry field) (room : Nat),
    Fields.read field (room + depth) (Written.write field entry).node = .ok entry

/-- The fields of a record that can be told apart by their names. -/
class NamedApart (F : Type) [DecidableEq F] [Fields F] : Prop where
  field?_name : ∀ field : F, Record.field? F (Fields.name field) = some field

instance {F : Type} [DecidableEq F] [Fields F] [Written F] [LawfulRecord F] : NamedApart F where
  field?_name := LawfulRecord.field?_name

variable {F α : Type} [DecidableEq F] [Fields F] [Written F] [LawfulRecord F]

namespace Record

omit [Written F] [LawfulRecord F] in
@[simp]
theorem set_self (record : Record F) (field : F) (entry : Fields.Entry field) :
    record.set field entry field = some entry := by
  simp [set]

omit [Written F] [LawfulRecord F] in
theorem set_of_ne (record : Record F) {field other : F} (entry : Fields.Entry field)
    (hne : field ≠ other) : record.set field entry other = record other := by
  simp [set, hne]

omit [Written F] [LawfulRecord F] in
theorem name_of_field? {name : String} {field : F} (h : field? F name = some field) :
    Fields.name field = name := by
  simpa using List.find?_some h

omit [Written F] [LawfulRecord F] in
/-- A member that is read is passed over, or it fills a field that was empty. -/
theorem readMembers_cons {room : Nat} {name : Except Fault String} {node : Node}
    {rest : List (Except Fault String × Node)} {record read : Record F} :
    readMembers room ((name, node) :: rest) record = .ok read ↔
      ∃ text, name = .ok text ∧
        ((field? F text = none ∧ node.skip = .ok () ∧ readMembers room rest record = .ok read) ∨
          ∃ field entry, field? F text = some field ∧ record field = none ∧
            Fields.read field room node = .ok entry ∧
            readMembers room rest (record.set field entry) = .ok read) := by
  rw [readMembers, bind_eq_ok]
  apply exists_congr
  intro text
  apply and_congr_right
  intro _
  cases field? F text with
  | none =>
      have hunit : (∃ walked, node.skip = .ok walked) ↔ node.skip = .ok () :=
        ⟨fun ⟨(), hskip⟩ => hskip, fun hskip => ⟨(), hskip⟩⟩
      simp [bind_eq_ok, hunit]
  | some field => cases hold : record field <;> simp [hold, bind_eq_ok]

omit [Written F] [LawfulRecord F] in
theorem name_injective [NamedApart F] {field other : F} (h : Fields.name field = Fields.name other) :
    field = other := by
  have hfield := NamedApart.field?_name field
  rw [h, NamedApart.field?_name other] at hfield
  exact (Option.some.inj hfield).symm

theorem mem_order (field : F) : field ∈ (Fields.order : List F) :=
  List.mem_of_find?_eq_some (LawfulRecord.field?_name field)

/-- Members with distinct names put into each field what is read from the member with its name. -/
theorem readMembers_memberNodes {room : Nat} {members : List (String × Value)}
    (hdistinct : (members.map Prod.fst).Nodup)
    (hknown : ∀ name ∈ members.map Prod.fst, ∃ field : F, Fields.name field = name)
    (record entries : Record F)
    (hsome : ∀ field value, members.lookup (Fields.name field) = some value →
      record field = none ∧ ∃ entry, Fields.read field room value.node = .ok entry ∧
        entries field = some entry)
    (hnone : ∀ field, members.lookup (Fields.name field) = none → entries field = record field) :
    readMembers room (memberNodes members) record = .ok entries := by
  induction members generalizing record with
  | nil =>
      have hsame : entries = record := funext fun field => hnone field rfl
      rw [memberNodes, readMembers, hsame]
  | cons member rest ih =>
      obtain ⟨name, value⟩ := member
      rw [List.map_cons, List.nodup_cons] at hdistinct
      obtain ⟨field, rfl⟩ := hknown name List.mem_cons_self
      obtain ⟨hfresh, entry, hread, hentry⟩ := hsome field value (by rw [lookup_cons, if_pos rfl])
      have hrest : rest.lookup (Fields.name field) = none := lookup_eq_none_of_not_mem hdistinct.1
      have hstep : readMembers room (memberNodes ((Fields.name field, value) :: rest)) record =
          readMembers room (memberNodes rest) (record.set field entry) := by
        simp only [memberNodes, readMembers, LawfulRecord.field?_name, hfresh, hread,
          Option.isSome_none, bind, Except.bind, Bool.false_eq_true, if_false]
      rw [hstep]
      apply ih hdistinct.2 (fun other hother => hknown other (List.mem_cons_of_mem _ hother))
      · intro other found hfound
        have hne : field ≠ other := by
          rintro rfl
          rw [hrest] at hfound
          cases hfound
        rw [set_of_ne record entry hne]
        apply hsome
        rw [lookup_cons, if_neg fun hsame => hne (name_injective hsame.symm), hfound]
      · intro other hmissing
        by_cases hsame : field = other
        · subst hsame
          rw [set_self, hentry]
        · rw [set_of_ne record entry hsame]
          apply hnone
          rw [lookup_cons, if_neg fun h => hsame (name_injective h.symm), hmissing]

theorem lookup_filterMap_member? (record : Record F) (field : F) (fields : List F) :
    (fields.filterMap record.member?).lookup (Fields.name field) =
      if field ∈ fields then (record field).map (Written.write field) else none := by
  induction fields with
  | nil => rfl
  | cons first rest ih =>
      by_cases hfirst : first = field
      · subst hfirst
        cases hentry : record first with
        | none => simp [member?, hentry, ih]
        | some entry => simp [member?, hentry]
      · have hmem : field ∈ first :: rest ↔ field ∈ rest := by simp [Ne.symm hfirst]
        cases hentry : record first with
        | none => simp [member?, hentry, ih, hmem]
        | some entry =>
            have hnames : Fields.name field ≠ Fields.name first :=
              fun hsame => hfirst (name_injective hsame.symm)
            simp [member?, hentry, lookup_cons, hnames, ih, hmem]

/-- What stands under the name of a field in a record that was written. -/
theorem lookup_members (record : Record F) (field : F) :
    record.members.lookup (Fields.name field) = (record field).map (Written.write field) := by
  rw [members, lookup_filterMap_member?, if_pos (mem_order field)]

omit [LawfulRecord F] in
theorem exists_name_of_mem_members {record : Record F} {name : String}
    (h : name ∈ record.members.map Prod.fst) : ∃ field : F, Fields.name field = name := by
  obtain ⟨member, hmember, rfl⟩ := List.mem_map.mp h
  obtain ⟨field, -, hfield⟩ := List.mem_filterMap.mp hmember
  obtain ⟨entry, -, rfl⟩ := Option.map_eq_some_iff.mp hfield
  exact ⟨field, rfl⟩

theorem nodup_members (record : Record F) : (record.members.map Prod.fst).Nodup := by
  have hsublist : (record.members.map Prod.fst).Sublist ((Fields.order : List F).map Fields.name) := by
    rw [members]
    induction (Fields.order : List F) with
    | nil => exact .slnil
    | cons first rest ih =>
        cases hentry : record first with
        | none => simpa [member?, hentry] using ih.cons _
        | some entry => simpa [member?, hentry] using ih
  exact hsublist.nodup (LawfulRecord.nodup_order.map fun _ _ => name_injective)

/-- One record over another: a field that both hold is joined. -/
def laidOver (join : (field : F) → Fields.Entry field → Fields.Entry field → Fields.Entry field)
    (overlay base : Record F) : Record F := fun field =>
  (base field).merge (join field) (overlay field)

end Record

namespace Reader

omit [DecidableEq F] [Fields F] [Written F] [LawfulRecord F] in
theorem option_of_ne_null (read : Reader α) (room : Nat) {node : Node} (h : node ≠ .null) :
    Reader.option read room node = (read room node).map some := by
  cases node with
  | null => exact absurd rfl h
  | _ => rfl

/-- A record that was written is read back. -/
theorem record_toValue (build : Record F → Except Fault α) (record : Record F) (room : Nat) :
    Reader.record build (room + LawfulRecord.depth F + 1) record.toValue.node = build record := by
  have hread : Record.readMembers (room + LawfulRecord.depth F) (memberNodes record.members) .empty
      = .ok record := by
    apply Record.readMembers_memberNodes (Record.nodup_members record)
      (fun name hname => Record.exists_name_of_mem_members hname)
    · intro field value hvalue
      rw [Record.lookup_members] at hvalue
      obtain ⟨entry, hentry, rfl⟩ := Option.map_eq_some_iff.mp hvalue
      exact ⟨rfl, entry, LawfulRecord.read_write field entry room, hentry⟩
    · intro field hmissing
      rw [Record.lookup_members, Option.map_eq_none_iff] at hmissing
      exact hmissing
  simp only [Reader.record, Reader.object, Record.toValue, Value.node, hread, Ending.keep, bind,
    Except.bind]

/-- One written record laid over another is read as their join. -/
theorem record_merge {join : (field : F) → Fields.Entry field → Fields.Entry field → Fields.Entry field}
    {room : Nat}
    (hjoin : ∀ (field : F) (old new : Fields.Entry field),
      Fields.read field (room + LawfulRecord.depth F)
        ((Written.write field old).merge (Written.write field new)).node = .ok (join field old new))
    (build : Record F → Except Fault α) (base overlay : Record F) :
    Reader.record build (room + LawfulRecord.depth F + 1) (base.toValue.merge overlay.toValue).node
      = build (overlay.laidOver join base) := by
  have hlookup (field : F) := lookup_mergeMembers (Record.nodup_members overlay) base.members
    (Fields.name field)
  simp only [Record.lookup_members] at hlookup
  have hread : Record.readMembers (room + LawfulRecord.depth F)
      (memberNodes (mergeMembers base.members overlay.members)) .empty
      = .ok (overlay.laidOver join base) := by
    apply Record.readMembers_memberNodes (nodup_mergeMembers _ (Record.nodup_members base))
    · intro name hname
      rcases mem_map_fst_mergeMembers hname with hbase | hoverlay
      · exact Record.exists_name_of_mem_members hbase
      · exact Record.exists_name_of_mem_members hoverlay
    · intro field value hvalue
      rw [hlookup] at hvalue
      refine ⟨rfl, ?_⟩
      cases hbase : base field with
      | none =>
          cases hoverlay : overlay field with
          | none => simp [hbase, hoverlay] at hvalue
          | some new =>
              obtain rfl : Written.write field new = value := by
                simpa [hbase, hoverlay, overlaid] using hvalue
              exact ⟨new, LawfulRecord.read_write field new room, by simp [Record.laidOver, hbase, hoverlay]⟩
      | some old =>
          cases hoverlay : overlay field with
          | none =>
              obtain rfl : Written.write field old = value := by
                simpa [hbase, hoverlay] using hvalue
              exact ⟨old, LawfulRecord.read_write field old room, by simp [Record.laidOver, hbase, hoverlay]⟩
          | some new =>
              obtain rfl : (Written.write field old).merge (Written.write field new) = value := by
                simpa [hbase, hoverlay, overlaid] using hvalue
              exact ⟨join field old new, hjoin field old new, by simp [Record.laidOver, hbase, hoverlay]⟩
    · intro field hmissing
      rw [hlookup] at hmissing
      cases hoverlay : overlay field with
      | some new => simp [hoverlay] at hmissing
      | none =>
          have hbase : base field = none := by simpa [hoverlay] using hmissing
          simp [Record.laidOver, hbase, hoverlay, Record.empty]
  simp only [Reader.record, Reader.object, Record.toValue, Value.merge, Value.node, hread,
    Ending.keep, bind, Except.bind]

end Reader

end Rail18.Json
