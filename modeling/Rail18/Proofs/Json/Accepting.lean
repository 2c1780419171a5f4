import Mathlib.Data.List.Forall2
import Rail18.Proofs.Json.Members
import Rail18.Proofs.Json.Skipping

/-!
# Which values are read

A reader accepts a value if it reads something from it. A list is accepted item by item and a value of
several forms if one of the forms is; an object is accepted as a record field by field, whatever its other
members hold and in whatever order they stand, as long as no field has two members. How much room a reader
has for containers matters only where a value is kept as a whole.
-/

namespace Rail18.Json

/-! ### Depth -/

mutual

/-- How many containers stand inside one another. -/
def Value.depth : Value → Nat
  | .array items => itemsDepth items + 1
  | .object members => membersDepth members + 1
  | _ => 0

def itemsDepth : List Value → Nat
  | [] => 0
  | value :: rest => max value.depth (itemsDepth rest)

def membersDepth : List (String × Value) → Nat
  | [] => 0
  | (_, value) :: rest => max value.depth (membersDepth rest)

end

theorem itemsDepth_le {room : Nat} {items : List Value} :
    itemsDepth items ≤ room ↔ ∀ item ∈ items, item.depth ≤ room := by
  induction items with
  | nil => simp [itemsDepth]
  | cons item rest ih => rw [itemsDepth, Nat.max_le, ih, List.forall_mem_cons]

mutual

/-- A value can be kept if there is room for its depth. -/
theorem exists_keep_iff : (value : Value) → {room : Nat} →
    (∃ kept, value.node.keep room = .ok kept) ↔ value.depth ≤ room
  | .null, room | .bool _, room | .number _, room | .string _, room =>
      iff_of_true ⟨_, rfl⟩ (Nat.zero_le room)
  | .array items, 0 | .object members, 0 => by
      refine iff_of_false ?_ (Nat.not_succ_le_zero _)
      rintro ⟨kept, h⟩
      cases h
  | .array items, room + 1 => by
      rw [Value.depth, Nat.add_le_add_iff_right, ← exists_keepItems_iff items]
      exact exists_bind_eq_ok_of_total fun values => ⟨_, rfl⟩
  | .object members, room + 1 => by
      rw [Value.depth, Nat.add_le_add_iff_right, ← exists_keepMembers_iff members]
      exact exists_bind_eq_ok_of_total fun members => ⟨_, rfl⟩

theorem exists_keepItems_iff : (items : List Value) → {room : Nat} →
    (∃ kept, keepItems room (nodes items) = .ok kept) ↔ itemsDepth items ≤ room
  | [], room => iff_of_true ⟨[], rfl⟩ (Nat.zero_le room)
  | value :: rest, room => by
      rw [itemsDepth, Nat.max_le, ← exists_keep_iff value, ← exists_keepItems_iff rest]
      refine exists_bind_eq_ok.trans ?_
      rw [← exists_and_right]
      exact exists_congr fun item => and_congr_right fun _ =>
        exists_bind_eq_ok_of_total fun items => ⟨_, rfl⟩

theorem exists_keepMembers_iff : (members : List (String × Value)) → {room : Nat} →
    (∃ kept, keepMembers room (memberNodes members) = .ok kept) ↔ membersDepth members ≤ room
  | [], room => iff_of_true ⟨[], rfl⟩ (Nat.zero_le room)
  | (name, value) :: rest, room => by
      rw [membersDepth, Nat.max_le, ← exists_keep_iff value, ← exists_keepMembers_iff rest]
      refine (@exists_bind_eq_ok _ _ _ (value.node.keep room) _).trans ?_
      rw [← exists_and_right]
      exact exists_congr fun item => and_congr_right fun _ =>
        exists_bind_eq_ok_of_total fun items => ⟨_, rfl⟩

end

/-! ### Readers -/

namespace Reader

variable {α β : Type} {read : Reader α} {room : Nat} {value : Value}

/-- A reader accepts a value where it may open so many containers. -/
def Accepts (read : Reader α) (room : Nat) (value : Value) : Prop :=
  ∃ item, read room value.node = .ok item

theorem text_accepts : text.Accepts room value ↔ ∃ written, value = .string written := by
  cases value with
  | string written => exact iff_of_true ⟨written, rfl⟩ ⟨written, rfl⟩
  | _ => exact iff_of_false nofun nofun

theorem bool_accepts : bool.Accepts room value ↔ ∃ flag, value = .bool flag := by
  cases value with
  | bool flag => exact iff_of_true ⟨flag, rfl⟩ ⟨flag, rfl⟩
  | _ => exact iff_of_false nofun nofun

theorem integer_accepts {word? : Int → Option α} :
    (integer word?).Accepts room value ↔
      ∃ number word, value = .integer number ∧ word? number = some word := by
  constructor
  · rintro ⟨word, h⟩
    cases value with
    | number number =>
        cases number with
        | integer number =>
            refine ⟨number, word, rfl, ?_⟩
            simp only [integer, Value.node] at h
            split at h
            · next hword => rwa [← Except.ok.inj h]
            · cases h
        | double number => cases h
    | _ => cases h
  · rintro ⟨number, word, rfl, hword⟩
    exact ⟨word, by simp [integer, Value.integer, Value.node, hword]⟩

theorem map_accepts {f : α → β} : (map f read).Accepts room value ↔ read.Accepts room value := by
  constructor
  · rintro ⟨item, h⟩
    obtain ⟨first, hfirst, -⟩ := map_eq_ok.mp h
    exact ⟨first, hfirst⟩
  · rintro ⟨item, h⟩
    exact ⟨f item, map_eq_ok.mpr ⟨item, h, rfl⟩⟩

theorem node_ne_null (h : value ≠ .null) : value.node ≠ .null := by
  cases value with
  | null => exact absurd rfl h
  | _ => nofun

theorem option_accepts : (option read).Accepts room value ↔ value = .null ∨ read.Accepts room value := by
  by_cases hnull : value = .null
  · subst hnull
    exact iff_of_true ⟨none, rfl⟩ (.inl rfl)
  · rw [Accepts, option_of_ne_null read room (node_ne_null hnull)]
    exact (map_accepts (f := some)).trans (or_iff_right hnull).symm

theorem firstOf_isSome {readers : List (Reader α)} :
    (∃ item, firstOf readers room value.node = some item) ↔ ∃ read ∈ readers, read.Accepts room value := by
  rw [← Option.isSome_iff_exists, firstOf, List.findSome?_isSome_iff]
  refine exists_congr fun read => and_congr_right fun _ => ?_
  rw [Accepts]
  cases read room value.node <;> simp [Except.toOption]

theorem firstOf_cons_eq_some {readers : List (Reader α)} {item : α} :
    firstOf (read :: readers) room value.node = some item ↔
      read room value.node = .ok item ∨
        (¬ read.Accepts room value ∧ firstOf readers room value.node = some item) := by
  rw [firstOf, List.findSome?_cons, ← firstOf, Accepts]
  cases read room value.node <;> simp [Except.toOption]

theorem oneOf_eq_ok {readers : List (Reader α)} {item : α} :
    oneOf readers room value.node = .ok item ↔
      value.depth ≤ room ∧ firstOf readers room value.node = some item := by
  rw [oneOf, bind_eq_ok, ← exists_keep_iff, ← exists_and_right]
  refine exists_congr fun kept => and_congr_right fun _ => ?_
  cases firstOf readers room value.node <;> simp [pure, Except.pure]

theorem oneOf_accepts {readers : List (Reader α)} :
    (oneOf readers).Accepts room value ↔
      value.depth ≤ room ∧ ∃ read ∈ readers, read.Accepts room value := by
  simp only [Accepts, oneOf_eq_ok, exists_and_left]
  exact and_congr_right fun _ => firstOf_isSome

/-! ### Lists -/

theorem items_eq_ok {values : List Value} {list : List α} :
    items read room (nodes values) = .ok list ↔
      List.Forall₂ (fun value item => read room value.node = .ok item) values list := by
  induction values generalizing list with
  | nil => simp [nodes, items, eq_comm]
  | cons value rest ih =>
      simp only [nodes, items, bind_eq_ok, ih, List.forall₂_cons_left_iff]
      constructor
      · rintro ⟨item, hitem, others, hothers, h⟩
        exact ⟨item, others, hitem, hothers, (Except.ok.inj h).symm⟩
      · rintro ⟨item, others, hitem, hothers, rfl⟩
        exact ⟨item, hitem, others, hothers, rfl⟩

theorem list_eq_ok {values : List Value} {list : List α} :
    Reader.list read (room + 1) (Value.array values).node = .ok list ↔
      List.Forall₂ (fun value item => read room value.node = .ok item) values list := by
  rw [← items_eq_ok]
  simp [Reader.list, Value.node, Ending.keep, bind_eq_ok, pure, Except.pure]

theorem list_accepts {values : List Value} :
    (Reader.list read).Accepts (room + 1) (.array values) ↔ ∀ value ∈ values, read.Accepts room value := by
  simp only [Accepts, list_eq_ok]
  induction values with
  | nil => exact iff_of_true ⟨[], .nil⟩ nofun
  | cons value rest ih =>
      rw [List.forall_mem_cons, ← ih]
      constructor
      · rintro ⟨list, h⟩
        obtain ⟨item, others, hitem, hothers, rfl⟩ := List.forall₂_cons_left_iff.mp h
        exact ⟨⟨item, hitem⟩, others, hothers⟩
      · rintro ⟨⟨item, hitem⟩, others, hothers⟩
        exact ⟨item :: others, .cons hitem hothers⟩

theorem eq_array_of_list_accepts (h : (Reader.list read).Accepts room value) :
    ∃ values, value = .array values := by
  obtain ⟨list, h⟩ := h
  cases value with
  | array values => exact ⟨values, rfl⟩
  | _ => cases room <;> cases h

end Reader

/-! ### Objects -/

/-- At most one member of an object has a name, and what it holds is as asked. -/
structure MayHold (members : List (String × Value)) (name : String) (asked : Value → Prop) : Prop where
  sole : (members.map Prod.fst).count name ≤ 1
  holds : ∀ value, (name, value) ∈ members → asked value

section MayHold

variable {name other : String} {value : Value} {asked : Value → Prop}
  {members before after rest : List (String × Value)}

theorem mayHold_of_not_mem (h : name ∉ members.map Prod.fst) : MayHold members name asked where
  sole := by rw [List.count_eq_zero_of_not_mem h]; exact Nat.zero_le 1
  holds value hvalue := absurd (List.mem_map_of_mem hvalue) h

theorem mayHold_cons_self :
    MayHold ((name, value) :: rest) name asked ↔ asked value ∧ name ∉ rest.map Prod.fst := by
  constructor
  · rintro ⟨hsole, hholds⟩
    rw [List.map_cons, List.count_cons_self, Nat.succ_le_succ_iff, Nat.le_zero] at hsole
    exact ⟨hholds value List.mem_cons_self, List.count_eq_zero.mp hsole⟩
  · rintro ⟨hasked, hnot⟩
    refine ⟨?_, fun found hfound => ?_⟩
    · have hone : (((name, value) :: rest).map Prod.fst).count name = 1 := by
        rw [List.map_cons, List.count_cons_self, List.count_eq_zero_of_not_mem hnot]
      exact Nat.le_of_eq hone
    · rcases List.mem_cons.mp hfound with hsame | hfound
      · exact (Prod.mk.inj hsame).2 ▸ hasked
      · exact absurd (List.mem_map_of_mem hfound) hnot

theorem mayHold_cons_of_ne (hne : other ≠ name) :
    MayHold ((other, value) :: rest) name asked ↔ MayHold rest name asked := by
  have hcount : (((other, value) :: rest).map Prod.fst).count name = (rest.map Prod.fst).count name :=
    List.count_cons_of_ne hne
  have hmem (found : Value) : (name, found) ∈ (other, value) :: rest ↔ (name, found) ∈ rest := by
    rw [List.mem_cons, Prod.mk.injEq]
    exact or_iff_right fun hsame => hne hsame.1.symm
  constructor
  · rintro ⟨hsole, hholds⟩
    exact ⟨hcount ▸ hsole, fun found hfound => hholds found ((hmem found).mpr hfound)⟩
  · rintro ⟨hsole, hholds⟩
    exact ⟨hcount ▸ hsole, fun found hfound => hholds found ((hmem found).mp hfound)⟩

theorem MayHold.perm {others : List (String × Value)} (h : members.Perm others)
    (hmembers : MayHold members name asked) : MayHold others name asked where
  sole := by
    rw [← (h.map Prod.fst).count_eq]
    exact hmembers.sole
  holds found hfound := hmembers.holds found (h.mem_iff.mpr hfound)

theorem mayHold_middle_iff :
    MayHold (before ++ (other, value) :: after) name asked ↔
      MayHold ((other, value) :: (before ++ after)) name asked :=
  ⟨MayHold.perm List.perm_middle, MayHold.perm List.perm_middle.symm⟩

end MayHold

section Objects

variable {F α : Type} [DecidableEq F] [Fields F] {room : Nat}
  {members before after : List (String × Value)}

namespace Record

/-- A field can take what members hold for it: it holds nothing yet and its member is accepted, or there
is no member for it. -/
def Takes (room : Nat) (members : List (String × Value)) (record : Record F) (field : F) : Prop :=
  if record field = none then MayHold members (Fields.name field) ((Fields.read field).Accepts room)
  else Fields.name field ∉ members.map Prod.fst

section Takes

variable {record : Record F} {field other : F} {value : Value} {rest : List (String × Value)}

theorem takes_empty :
    Takes room members .empty field ↔
      MayHold members (Fields.name field) ((Fields.read field).Accepts room) :=
  iff_of_eq (if_pos rfl)

theorem takes_cons_self :
    Takes room ((Fields.name field, value) :: rest) record field ↔
      record field = none ∧ (Fields.read field).Accepts room value ∧
        Fields.name field ∉ rest.map Prod.fst := by
  rw [Takes, mayHold_cons_self]
  split
  · next hempty => exact (and_iff_right hempty).symm
  · next hfilled => simp [hfilled]

theorem takes_cons_of_ne {name : String} (hne : name ≠ Fields.name field) :
    Takes room ((name, value) :: rest) record field ↔ Takes room rest record field := by
  rw [Takes, mayHold_cons_of_ne hne, List.map_cons, List.mem_cons, or_iff_right hne.symm, Takes]

theorem takes_set_self (entry : Fields.Entry field) :
    Takes room rest (record.set field entry) field ↔ Fields.name field ∉ rest.map Prod.fst := by
  rw [Takes, set_self, if_neg (Option.some_ne_none entry)]

theorem takes_set_of_ne (entry : Fields.Entry field) (hne : field ≠ other) :
    Takes room rest (record.set field entry) other ↔ Takes room rest record other := by
  rw [Takes, set_of_ne record entry hne, Takes]

variable [NamedApart F]

/-- What is read of the first member with a field's name leaves the other fields as they were. -/
theorem takes_cons_iff :
    (∀ other, Takes room ((Fields.name field, value) :: rest) record other) ↔
      record field = none ∧ ∃ entry, Fields.read field room value.node = .ok entry ∧
        ∀ other, Takes room rest (record.set field entry) other := by
  have hothers (entry : Fields.Entry field) (other : F) (hne : field ≠ other) :
      Takes room ((Fields.name field, value) :: rest) record other ↔
        Takes room rest (record.set field entry) other := by
    rw [takes_cons_of_ne fun h => hne (name_injective h), takes_set_of_ne entry hne]
  constructor
  · intro h
    obtain ⟨hempty, ⟨entry, hentry⟩, hnot⟩ := takes_cons_self.mp (h field)
    refine ⟨hempty, entry, hentry, fun other => ?_⟩
    by_cases hsame : field = other
    · exact hsame ▸ (takes_set_self entry).mpr hnot
    · exact (hothers entry other hsame).mp (h other)
  · rintro ⟨hempty, entry, hentry, h⟩ other
    by_cases hsame : field = other
    · have hnot := (takes_set_self entry).mp (h field)
      exact hsame ▸ takes_cons_self.mpr ⟨hempty, ⟨entry, hentry⟩, hnot⟩
    · exact (hothers entry other hsame).mpr (h other)

end Takes

variable [NamedApart F]

/-- Members are read into a record if each field can take what they hold for it. -/
theorem exists_readMembers_iff {record : Record F} :
    (∃ read, readMembers room (memberNodes members) record = .ok read) ↔
      ∀ field, Takes room members record field := by
  induction members generalizing record with
  | nil =>
      refine iff_of_true ⟨record, rfl⟩ fun field => ?_
      rw [Takes]
      split
      · exact mayHold_of_not_mem List.not_mem_nil
      · exact List.not_mem_nil
  | cons member rest ih =>
      obtain ⟨name, value⟩ := member
      simp only [memberNodes, readMembers_cons, Except.ok.injEq, exists_eq_left', Value.skip_node, true_and]
      cases hname : field? F name with
      | none =>
          have hother (field : F) : name ≠ Fields.name field := by
            rintro rfl
            cases (NamedApart.field?_name field).symm.trans hname
          simp only [true_and, reduceCtorEq, false_and, exists_false, or_false, ih,
            takes_cons_of_ne (hother _)]
      | some field =>
          obtain rfl := name_of_field? hname
          rw [takes_cons_iff]
          simp only [← ih, reduceCtorEq, false_and, false_or, Option.some.injEq]
          constructor
          · rintro ⟨read, _, entry, rfl, hempty, hentry, hrest⟩
            exact ⟨hempty, entry, hentry, read, hrest⟩
          · rintro ⟨hempty, entry, hentry, read, hrest⟩
            exact ⟨read, field, entry, rfl, hempty, hentry, hrest⟩

end Record

namespace Reader

variable [NamedApart F] {build : Record F → Except Fault α}

theorem object_accepts (hbuild : ∀ record, ∃ item, build record = .ok item) :
    (object build).Accepts (room + 1) (.object members) ↔
      ∀ field : F, MayHold members (Fields.name field) ((Fields.read field).Accepts room) := by
  have hmembers : (object build).Accepts (room + 1) (.object members) ↔
      ∃ record : Record F, Record.readMembers room (memberNodes members) .empty = .ok record := by
    refine exists_bind_eq_ok_of_total fun record => ?_
    exact hbuild record
  rw [hmembers, Record.exists_readMembers_iff]
  exact forall_congr' fun field => Record.takes_empty

theorem record_accepts (hbuild : ∀ record, ∃ item, build record = .ok item) :
    (record build).Accepts (room + 1) (.object members) ↔
      ∀ field : F, MayHold members (Fields.name field) ((Fields.read field).Accepts room) :=
  object_accepts hbuild

/-- What a field's member holds may be exchanged for what the reader of the field accepts. -/
theorem record_accepts_exchange (hbuild : ∀ record, ∃ item, build record = .ok item) (field : F)
    {value other : Value}
    (h : (record build).Accepts (room + 1) (.object (before ++ (Fields.name field, other) :: after))) :
    (record build).Accepts (room + 1) (.object (before ++ (Fields.name field, value) :: after)) ↔
      (Fields.read field).Accepts room value := by
  rw [record_accepts hbuild] at h ⊢
  simp only [mayHold_middle_iff] at h ⊢
  obtain ⟨-, hnot⟩ := mayHold_cons_self.mp (h field)
  constructor
  · intro hvalue
    exact (mayHold_cons_self.mp (hvalue field)).1
  · intro hvalue third
    by_cases hsame : third = field
    · subst hsame
      exact mayHold_cons_self.mpr ⟨hvalue, hnot⟩
    · have hne : Fields.name field ≠ Fields.name third :=
        fun h => hsame (Record.name_injective h).symm
      exact (mayHold_cons_of_ne hne).mpr ((mayHold_cons_of_ne hne).mp (h third))

/-- What is read of an object holds in a field what is read of the member with its name. -/
theorem record_object_middle (field : F) {value : Value} {item : α}
    (h : record build (room + 1) (Value.object (before ++ (Fields.name field, value) :: after)).node =
      .ok item) :
    ∃ record : Record F, build record = .ok item ∧
      ∃ entry, Fields.read field room value.node = .ok entry ∧ record field = some entry := by
  obtain ⟨record, hmembers, hrest⟩ := bind_eq_ok.mp h
  obtain ⟨-, -, hbuild⟩ := bind_eq_ok.mp hrest
  have htakes := Record.takes_empty.mp (Record.exists_readMembers_iff.mp ⟨record, hmembers⟩ field)
  obtain ⟨-, hnot⟩ := mayHold_cons_self.mp (mayHold_middle_iff.mp htakes)
  rw [List.map_append, List.mem_append, not_or] at hnot
  have hread := (Record.readFrom_of_readMembers hmembers field).2 rfl
  rw [List.lookup_append, lookup_eq_none_of_not_mem hnot.1, Option.none_or, lookup_cons, if_pos rfl] at hread
  exact ⟨record, hbuild, hread⟩

end Reader

end Objects

end Rail18.Json
