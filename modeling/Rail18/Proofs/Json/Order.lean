import Rail18.Proofs.Json.Skipping

/-!
# The order of members does not matter

Two values are similar if they differ in the order of the members of objects only. A value is kept as an
object whose members are sorted by name, and written with its members in the order of the fields; either
way a reader that reads one of two similar values reads the same from the other.
-/

namespace Rail18.Json

/-- The members of one object in the order of another, up to a relation of their values. -/
inductive MembersAlike (Alike : Value → Value → Prop) :
    List (String × Value) → List (String × Value) → Prop where
  | nil : MembersAlike Alike [] []
  | cons {name : String} {value other : Value} {rest others : List (String × Value)} :
      Alike value other → MembersAlike Alike rest others →
      MembersAlike Alike ((name, value) :: rest) ((name, other) :: others)
  | swap (first second : String × Value) (rest : List (String × Value)) :
      MembersAlike Alike (first :: second :: rest) (second :: first :: rest)
  | trans {members middle others : List (String × Value)} :
      MembersAlike Alike members middle → MembersAlike Alike middle others →
      MembersAlike Alike members others

/-- Two values are the same, but for the order of members. -/
inductive Value.Similar : Value → Value → Prop where
  | refl (value : Value) : Similar value value
  | array {items others : List Value} :
      List.Forall₂ Similar items others → Similar (.array items) (.array others)
  | object {members others : List (String × Value)} :
      MembersAlike Similar members others → Similar (.object members) (.object others)

@[simp]
theorem length_nodes (values : List Value) : (nodes values).length = values.length := by
  induction values with
  | nil => rfl
  | cons value rest ih => rw [nodes, List.length_cons, List.length_cons, ih]

namespace Reader

variable {α β : Type}

/-- A reader does not mind the order of members. -/
def Orderless (read : Reader α) : Prop :=
  ∀ room (value other : Value) item, value.Similar other →
    read room value.node = .ok item → read room other.node = .ok item

theorem Plain.orderless {read : Reader α} (h : Plain read) : Orderless read := by
  intro room value other item hsimilar hread
  cases hsimilar with
  | refl => exact hread
  | array | object => cases h room _ item hread

theorem items_orderless {read : Reader α} (h : Orderless read) {room : Nat} {values others : List Value}
    (hsimilar : List.Forall₂ Value.Similar values others) {list : List α}
    (hread : items read room (nodes values) = .ok list) : items read room (nodes others) = .ok list := by
  induction hsimilar generalizing list with
  | nil => exact hread
  | cons hfirst _ ih =>
      obtain ⟨item, hitem, hrest⟩ := bind_eq_ok.mp hread
      obtain ⟨rest, hrest, hlist⟩ := bind_eq_ok.mp hrest
      exact bind_eq_ok.mpr
        ⟨item, h room _ _ item hfirst hitem, bind_eq_ok.mpr ⟨rest, ih hrest, hlist⟩⟩

namespace Orderless

variable {read : Reader α}

theorem option (h : Orderless read) : Orderless (.option read) := by
  intro room value other item hsimilar hread
  cases hsimilar with
  | refl => exact hread
  | array hitems =>
      obtain ⟨entry, hentry, rfl⟩ := map_eq_ok.mp hread
      exact map_eq_ok.mpr ⟨entry, h room _ _ entry (.array hitems) hentry, rfl⟩
  | object hmembers =>
      obtain ⟨entry, hentry, rfl⟩ := map_eq_ok.mp hread
      exact map_eq_ok.mpr ⟨entry, h room _ _ entry (.object hmembers) hentry, rfl⟩

theorem list (h : Orderless read) : Orderless (.list read) := by
  intro room value other item hsimilar hread
  cases hsimilar with
  | refl => exact hread
  | array hitems =>
      cases room with
      | zero => cases hread
      | succ room =>
          obtain ⟨list, hlist, hrest⟩ := bind_eq_ok.mp hread
          exact bind_eq_ok.mpr ⟨list, items_orderless h hitems hlist, hrest⟩
  | object => cases room <;> cases hread

end Orderless

end Reader

/-! ### Records -/

namespace Record

variable {F : Type} [DecidableEq F] [Fields F]

/-- The reader of each field does not mind the order of members. -/
def Orderless (F : Type) [DecidableEq F] [Fields F] : Prop :=
  ∀ field : F, Reader.Orderless (Fields.read field)

theorem set_comm {field other : F} (h : field ≠ other) (record : Record F)
    (entry : Fields.Entry field) (entry' : Fields.Entry other) :
    (record.set field entry).set other entry' = (record.set other entry').set field entry := by
  funext third
  by_cases hfield : field = third
  · subst hfield
    rw [set_self, set_of_ne _ _ (Ne.symm h), set_self]
  · by_cases hother : other = third
    · subst hother
      rw [set_self, set_of_ne _ _ hfield, set_self]
    · rw [set_of_ne _ _ hother, set_of_ne _ _ hfield, set_of_ne _ _ hfield, set_of_ne _ _ hother]

theorem readMembers_swap {room : Nat} {first second : String × Value} {rest : List (String × Value)}
    {record read : Record F}
    (h : readMembers room (memberNodes (first :: second :: rest)) record = .ok read) :
    readMembers room (memberNodes (second :: first :: rest)) record = .ok read := by
  obtain ⟨name, value⟩ := first
  obtain ⟨name', value'⟩ := second
  simp only [memberNodes, readMembers_cons, Except.ok.injEq, exists_eq_left', Value.skip_node,
    true_and] at h ⊢
  obtain ⟨hfirst, hrest⟩ | ⟨field, entry, hfield, hempty, hentry, hrest⟩ := h
  · obtain ⟨hsecond, hrest⟩ | ⟨other, entry', hother, hempty', hentry', hrest⟩ := hrest
    · exact .inl ⟨hsecond, .inl ⟨hfirst, hrest⟩⟩
    · exact .inr ⟨other, entry', hother, hempty', hentry', .inl ⟨hfirst, hrest⟩⟩
  · obtain ⟨hsecond, hrest⟩ | ⟨other, entry', hother, hempty', hentry', hrest⟩ := hrest
    · exact .inl ⟨hsecond, .inr ⟨field, entry, hfield, hempty, hentry, hrest⟩⟩
    · have hne : field ≠ other := by
        rintro rfl
        rw [set_self] at hempty'
        cases hempty'
      rw [set_of_ne record entry hne] at hempty'
      rw [set_comm hne] at hrest
      have hstill : (record.set other entry') field = none := by
        rwa [set_of_ne record entry' hne.symm]
      exact .inr ⟨other, entry', hother, hempty', hentry',
        .inr ⟨field, entry, hfield, hstill, hentry, hrest⟩⟩

theorem readMembers_orderless (hfields : Orderless F) {room : Nat}
    {members others : List (String × Value)} (hsimilar : MembersAlike Value.Similar members others)
    {record read : Record F} (h : readMembers room (memberNodes members) record = .ok read) :
    readMembers room (memberNodes others) record = .ok read := by
  induction hsimilar generalizing record with
  | nil => exact h
  | cons hvalue _ ih =>
      obtain ⟨text, hname, hmember⟩ := readMembers_cons.mp h
      refine readMembers_cons.mpr ⟨text, hname, ?_⟩
      obtain ⟨hunknown, -, hrest⟩ | ⟨field, entry, hfield, hempty, hentry, hrest⟩ := hmember
      · exact .inl ⟨hunknown, Value.skip_node _, ih hrest⟩
      · have hother := hfields field room _ _ entry hvalue hentry
        exact .inr ⟨field, entry, hfield, hempty, hother, ih hrest⟩
  | swap => exact readMembers_swap h
  | trans _ _ ihfirst ihsecond => exact ihsecond (ihfirst h)

theorem readItems_orderless (hfields : Orderless F) {room : Nat} {ending : Ending} {fields : List F}
    {values others : List Value} (hsimilar : List.Forall₂ Value.Similar values others)
    {record read : Record F}
    (h : readItems room ending fields (nodes values) record = .ok read) :
    readItems room ending fields (nodes others) record = .ok read := by
  induction hsimilar generalizing fields record with
  | nil => exact h
  | cons hfirst _ ih =>
      cases fields with
      | nil => cases h
      | cons field fields =>
          obtain ⟨entry, hentry, hrest⟩ := bind_eq_ok.mp h
          exact bind_eq_ok.mpr ⟨entry, hfields field room _ _ entry hfirst hentry, ih hrest⟩

end Record

namespace Reader

variable {F α : Type} [DecidableEq F] [Fields F]

theorem record_orderless (hfields : Record.Orderless F) (build : Record F → Except Fault α) :
    Orderless (Reader.record build) := by
  intro room value other item hsimilar hread
  cases hsimilar with
  | refl => exact hread
  | array hitems =>
      cases room with
      | zero => cases hread
      | succ room =>
          obtain ⟨record, hrecord, hbuild⟩ := bind_eq_ok.mp hread
          refine bind_eq_ok.mpr ⟨record, ?_, hbuild⟩
          rw [length_nodes, ← hitems.length_eq, ← length_nodes]
          exact Record.readItems_orderless hfields hitems hrecord
  | object hmembers =>
      cases room with
      | zero => cases hread
      | succ room =>
          obtain ⟨record, hrecord, hbuild⟩ := bind_eq_ok.mp hread
          exact bind_eq_ok.mpr ⟨record, Record.readMembers_orderless hfields hmembers hrecord, hbuild⟩

end Reader

end Rail18.Json
