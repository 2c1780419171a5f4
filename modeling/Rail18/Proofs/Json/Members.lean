import Rail18.Proofs.Json.Record
import Rail18.Proofs.Outcome

/-!
# What is read of an object

A record that is read from an object has in each field what the member with the field's name holds, and
nothing where there is no such member. Members with other names are passed over, and a name of a field
stands at most once, so that the first member with the name is the only one.
-/

namespace Rail18.Json

namespace Record

variable {F : Type} [DecidableEq F] [Fields F]

/-- What a field of a record holds is read from a member, if there is one. -/
def ReadFrom (room : Nat) (field : F) (member : Option Value) (entry : Option (Fields.Entry field)) :
    Prop :=
  match member with
  | none => entry = none
  | some value => ∃ read, Fields.read field room value.node = .ok read ∧ entry = some read

variable [NamedApart F]

/-- What a field holds already is kept, and no member has its name; a field that holds nothing yet is read
from the member with its name. -/
theorem readFrom_of_readMembers {room : Nat} {members : List (String × Value)} {record read : Record F}
    (h : readMembers room (memberNodes members) record = .ok read) (field : F) :
    (∀ entry, record field = some entry → read field = some entry) ∧
      (record field = none → ReadFrom room field (members.lookup (Fields.name field)) (read field)) := by
  -- Both parts go through the induction together: what the head fills has to stay through the rest.
  induction members generalizing record with
  | nil =>
      obtain rfl := Except.ok.inj h
      exact ⟨fun _ hentry => hentry, fun hnone => hnone⟩
  | cons member rest ih =>
      obtain ⟨name, value⟩ := member
      obtain ⟨_, hname, hmember⟩ := readMembers_cons.mp h
      obtain rfl := Except.ok.inj hname
      obtain ⟨hfield, -, hmembers⟩ | ⟨first, entry, hfield, hfirst, hread, hmembers⟩ := hmember
      · have hother : Fields.name field ≠ name := by
          rintro rfl
          rw [NamedApart.field?_name field] at hfield
          cases hfield
        rw [lookup_cons, if_neg hother]
        exact ih hmembers
      · obtain rfl := name_of_field? hfield
        obtain ⟨hkept, hrest⟩ := ih hmembers
        rw [lookup_cons]
        by_cases hsame : first = field
        · subst hsame
          rw [if_pos rfl]
          refine ⟨fun old hold => ?_, fun _ => ⟨entry, hread, hkept entry (set_self ..)⟩⟩
          cases hfirst.symm.trans hold
        · rw [if_neg fun hname => hsame (name_injective hname.symm)]
          rw [set_of_ne record entry hsame] at hkept hrest
          exact ⟨hkept, hrest⟩

end Record

theorem Reader.record_object {F α : Type} [DecidableEq F] [Fields F] [NamedApart F]
    {build : Record F → Except Fault α} {room : Nat} {members : List (String × Value)} {item : α}
    (h : Reader.record build (room + 1) (Value.object members).node = .ok item) :
    ∃ record : Record F, build record = .ok item ∧
      ∀ field, Record.ReadFrom room field (members.lookup (Fields.name field)) (record field) := by
  obtain ⟨record, hmembers, h⟩ := bind_eq_ok.mp h
  obtain ⟨-, -, hbuild⟩ := bind_eq_ok.mp h
  exact ⟨record, hbuild, fun field => (Record.readFrom_of_readMembers hmembers field).2 rfl⟩

/-! ### Members that hold something -/

/-- Whether a value is one that stands for nothing: null, false or an empty list. -/
def Value.isVoid : Value → Bool
  | null | bool false | array [] => true
  | _ => false

/-- The entries that a record has where it holds nothing. -/
class Defaults (F : Type) [DecidableEq F] [Fields F] where
  entry : (field : F) → Fields.Entry field

section Defaults

variable {F : Type} [DecidableEq F] [Fields F] [Defaults F]

/-- What a record holds in a field, or else what the field holds by default. -/
def Record.entry (record : Record F) (field : F) : Fields.Entry field :=
  (record field).getD (Defaults.entry field)

/-- An object declares a field: it has a member with the field's name that stands for something. -/
def Declares (members : List (String × Value)) (field : F) : Prop :=
  ∃ value, members.lookup (Fields.name field) = some value ∧ value.isVoid = false

/-- A field is void by default: what is read into it is its default exactly if it stands for nothing. -/
def VoidByDefault (field : F) : Prop :=
  ∀ room value entry, Fields.read field room (Value.node value) = .ok entry →
    (entry = Defaults.entry field ↔ value.isVoid = true)

theorem declares_iff {room : Nat} {members : List (String × Value)} {record : Record F} {field : F}
    (hread : Record.ReadFrom room field (members.lookup (Fields.name field)) (record field))
    (hvoid : VoidByDefault field) :
    Declares members field ↔ record.entry field ≠ Defaults.entry field := by
  unfold Declares Record.entry
  cases hmember : members.lookup (Fields.name field) with
  | none =>
      rw [hmember] at hread
      rw [show record field = none from hread]
      simp
  | some value =>
      rw [hmember] at hread
      obtain ⟨entry, hentry, hfield⟩ := hread
      have hiff := hvoid room value entry hentry
      rw [hfield, Option.getD_some, Ne, hiff]
      simp

end Defaults

/-! ### Readers of what may stand for nothing -/

namespace Reader

variable {α : Type} {read : Reader α} {room : Nat} {value : Value}

/-- A reader is substantial if it reads nothing from what stands for nothing. -/
def Substantial (read : Reader α) : Prop :=
  ∀ room value item, read room (Value.node value) = .ok item → value.isVoid = false

theorem text_substantial : Substantial text := by
  intro room value item h
  cases value with
  | string text => rfl
  | _ => cases h

theorem integer_substantial (word? : Int → Option α) : Substantial (integer word?) := by
  intro room value item h
  cases value with
  | number number => rfl
  | _ => cases h

theorem option_eq_none_iff (hread : Substantial read) {entry : Option α}
    (h : Reader.option read room value.node = .ok entry) : entry = none ↔ value.isVoid = true := by
  cases value with
  | null =>
      obtain rfl := Except.ok.inj h
      simp [Value.isVoid]
  | _ =>
      rw [option_of_ne_null read room (by simp [Value.node])] at h
      obtain ⟨item, hitem, rfl⟩ := map_eq_ok.mp h
      simp [hread room _ item hitem]

theorem list_eq_nil_iff {list : List α} (h : Reader.list read room value.node = .ok list) :
    list = [] ↔ value.isVoid = true := by
  cases value with
  | array values =>
      cases room with
      | zero => cases h
      | succ room =>
          cases values with
          | nil =>
              obtain rfl := Except.ok.inj h
              simp [Value.isVoid]
          | cons first rest =>
              obtain ⟨items, hitems, h⟩ := bind_eq_ok.mp h
              obtain ⟨-, -, h⟩ := bind_eq_ok.mp h
              obtain rfl := Except.ok.inj h
              obtain ⟨item, -, hitems⟩ := bind_eq_ok.mp hitems
              obtain ⟨others, -, hitems⟩ := bind_eq_ok.mp hitems
              obtain rfl := Except.ok.inj hitems
              simp [Value.isVoid]
  | _ => cases room <;> cases h

theorem bool_eq_false_iff {flag : Bool} (h : Reader.bool room value.node = .ok flag) :
    flag = false ↔ value.isVoid = true := by
  cases value with
  | bool value =>
      obtain rfl := Except.ok.inj h
      cases value <;> simp [Value.isVoid]
  | _ => cases h

end Reader

end Rail18.Json
