import Rail18.Hex.Inheritance
import Rail18.Proofs.Hex.RoundTrip

/-!
# What a hex inherits

Laying a hex over a base, which goes through JSON, always succeeds, and its outcome can be said field
by field: own fields win, fields that hold nothing are taken from the base, lists are never joined
element by element, and only the two off-board areas are joined field by field themselves.
-/

namespace Rail18

open Json (Fields LawfulRecord Reader Record Value Written someIfSet someUnlessEmpty)

/-- The own list, or the inherited one when there is no own. -/
def inheritList {α : Type} (own base : List α) : List α := if own.isEmpty then base else own

/-- An off-board area over an inherited one. The revenues are always its own. -/
def Offboard.inherit (own base : Offboard) : Offboard where
  revenues := own.revenues
  hidden := own.hidden || base.hidden
  groups := inheritList own.groups base.groups
  name := own.name.or base.name

/-- An off-board area, if any, over an inherited one, if any. -/
def inheritOffboard (own base : Option Offboard) : Option Offboard :=
  base.merge (fun base own => own.inherit base) own

/-- A hex over the one that it copies. The coordinates are always its own. -/
def Hex.inherit (own base : Hex) : Hex where
  color := own.color.or base.color
  coords := own.coords
  encoding := own.encoding.or base.encoding
  cities := inheritList own.cities base.cities
  towns := inheritList own.towns base.towns
  centerTowns := inheritList own.centerTowns base.centerTowns
  offboard := inheritOffboard own.offboard base.offboard
  track := inheritList own.track base.track
  terrain := inheritList own.terrain base.terrain
  labels := inheritList own.labels base.labels
  removedBorders := inheritList own.removedBorders base.removedBorders
  values := inheritList own.values base.values
  copy := own.copy.or base.copy
  broken := own.broken || base.broken
  variation := own.variation.or base.variation

/-! ### Own entries and inherited ones -/

/-- A result is the own entry, or the inherited one where the own entry is void. -/
def Preferred {α : Type} (void own base result : α) : Prop :=
  (own ≠ void → result = own) ∧ (own = void → result = base)

section Preferred

variable {α : Type}

theorem preferred_or (own base : Option α) : Preferred none own base (own.or base) := by
  cases own <;> simp [Preferred]

theorem preferred_inheritList (own base : List α) : Preferred [] own base (inheritList own base) := by
  cases own <;> simp [Preferred, inheritList]

theorem preferred_flag (own base : Bool) : Preferred false own base (own || base) := by
  cases own <;> simp [Preferred]

theorem Preferred.unique {void own base result other : α} (h : Preferred void own base result)
    (hother : Preferred void own base other) : result = other := by
  by_cases hvoid : own = void
  · rw [h.2 hvoid, hother.2 hvoid]
  · rw [h.1 hvoid, hother.1 hvoid]

end Preferred

/-! ### Values laid over values -/

section Merge

variable {α : Type}

theorem merge_list (old : Value) (write : α → Value) (items : List α) :
    old.merge (.list write items) = .list write items := by
  cases old <;> rfl

theorem merge_bool (old : Value) (flag : Bool) : old.merge (.bool flag) = .bool flag := by
  cases old <;> rfl

theorem merge_string (old : Value) (text : String) : old.merge (.string text) = .string text := by
  cases old <;> rfl

theorem merge_integer (old : Value) (value : Int) : old.merge (.integer value) = .integer value := by
  cases old <;> rfl

theorem merge_option {write : α → Value} (h : ∀ old item, Value.merge old (write item) = write item)
    (old : Value) (entry : Option α) : old.merge (.option write entry) = .option write entry := by
  cases entry with
  | none => cases old <;> rfl
  | some item => exact h old item

/-- The name of a place, which is written as a record of its own, replaces another one. -/
theorem merge_option_named (name : String) (old new : Option String) :
    (Value.option (fun text => named name (.string text)) old).merge
        (.option (fun text => named name (.string text)) new)
      = .option (fun text => named name (.string text)) new := by
  cases new with
  | none => cases old <;> rfl
  | some text =>
      cases old with
      | none => rfl
      | some other =>
          simp [Value.option, Value.orNull, named, Value.merge, Json.mergeMembers, Json.putMember]

end Merge

/-! ### Entries joined with entries -/

section Entries

variable {α : Type}

theorem join_merge_map_some (old new : Option α) :
    ((old.map some).merge (fun _ new => new) (new.map some)).join = new.or old := by
  cases old <;> cases new <;> rfl

theorem getD_merge_someUnlessEmpty (old new : List α) :
    ((someUnlessEmpty old).merge (fun _ new => new) (someUnlessEmpty new)).getD [] =
      inheritList new old := by
  cases old <;> cases new <;> rfl

theorem getD_merge_someIfSet (old new : Bool) :
    ((someIfSet old).merge (fun _ new => new) (someIfSet new)).getD false = (new || old) := by
  cases old <;> cases new <;> rfl

end Entries

/-! ### The two areas and the two hexes -/

theorem Offboard.read_merge (room : Nat) (base own : Offboard) :
    Offboard.read (room + 3) (base.toValue.merge own.toValue).node = .ok (own.inherit base) := by
  have hjoin (field : OffboardField) (old new : Fields.Entry field) :
      Fields.read field (room + 2) ((Written.write field old).merge (Written.write field new)).node =
        .ok new := by
    have hread := LawfulRecord.read_write field new room
    cases field with
    | revenues => exact (merge_list ..).symm ▸ hread
    | hidden => exact (merge_bool ..).symm ▸ hread
    | groups => exact (merge_list ..).symm ▸ hread
    | name => exact (merge_option_named "name" old new).symm ▸ hread
  refine (Reader.record_merge hjoin _ base.record own.record).trans ?_
  exact congrArg Except.ok ((Offboard.mk.injEq ..).mpr ⟨rfl, getD_merge_someIfSet _ _,
    getD_merge_someUnlessEmpty _ _, join_merge_map_some _ _⟩)

/-- How the entries of a field are joined: only two off-board areas are. -/
def HexField.join : (field : HexField) → Fields.Entry field → Fields.Entry field → Fields.Entry field
  | .offboard, some base, some own => some (Offboard.inherit own base)
  | _, _, new => new

theorem HexField.read_merge (room : Nat) (field : HexField) (old new : Fields.Entry field) :
    Fields.read field (room + 3) ((Written.write field old).merge (Written.write field new)).node =
      .ok (field.join old new) := by
  have hread := LawfulRecord.read_write field new room
  cases field with
  | color | encoding | copy => exact (merge_option merge_string ..).symm ▸ hread
  | coords | cities | towns | centerTowns | track | terrain | labels | removedBorders | values =>
      exact (merge_list ..).symm ▸ hread
  | broken => exact (merge_bool ..).symm ▸ hread
  | variation => exact (merge_option (fun old _ => merge_integer old _) ..).symm ▸ hread
  | offboard =>
      cases new with
      | none => cases old <;> exact hread
      | some own =>
          cases old with
          | none => exact hread
          | some base => exact congrArg (Except.map some) (Offboard.read_merge room base own)

theorem join_merge_offboard (old new : Option Offboard) :
    ((old.map some).merge (HexField.join .offboard) (new.map some)).join = inheritOffboard new old := by
  cases old <;> cases new <;> rfl

/-- Laying a hex over a base succeeds, and gives the fields of the one over those of the other. -/
theorem Hex.merge_eq_inherit (base own : Hex) : base.merge own = .ok (own.inherit base) := by
  have hread : (base.toValue.merge own.toValue).read Hex.read = .ok (own.inherit base) := by
    refine (Reader.record_merge (HexField.read_merge 123) _ base.record own.record).trans ?_
    exact congrArg Except.ok ((Hex.mk.injEq ..).mpr ⟨join_merge_map_some _ _, rfl,
      join_merge_map_some _ _, getD_merge_someUnlessEmpty _ _, getD_merge_someUnlessEmpty _ _,
      getD_merge_someUnlessEmpty _ _, join_merge_offboard _ _, getD_merge_someUnlessEmpty _ _,
      getD_merge_someUnlessEmpty _ _, getD_merge_someUnlessEmpty _ _,
      getD_merge_someUnlessEmpty _ _, getD_merge_someUnlessEmpty _ _, join_merge_map_some _ _,
      getD_merge_someIfSet _ _, join_merge_map_some _ _⟩)
  rw [Hex.merge, hread]
  rfl

/-! ### The outcome, field by field -/

/-- An off-board area over an inherited one: the revenues are its own even if there are none. -/
structure Offboard.LaidOver (own base merged : Offboard) : Prop where
  revenues : merged.revenues = own.revenues
  hidden : merged.hidden = true ↔ own.hidden = true ∨ base.hidden = true
  groups : Preferred [] own.groups base.groups merged.groups
  name : Preferred none own.name base.name merged.name

/-- The off-board area of a hex over another: the only one that there is, or the one over the other. -/
inductive Offboard.Joined : (own base merged : Option Offboard) → Prop
  | absent : Joined none none none
  | own (area : Offboard) : Joined (some area) none (some area)
  | inherited (area : Offboard) : Joined none (some area) (some area)
  | both {own base merged : Offboard} : own.LaidOver base merged →
      Joined (some own) (some base) (some merged)

/-- A hex over another: the coordinates are its own even if there are none, a list is wholly its own or
wholly inherited, and it is broken if one of the two is. -/
structure Hex.LaidOver (own base merged : Hex) : Prop where
  color : Preferred none own.color base.color merged.color
  coords : merged.coords = own.coords
  encoding : Preferred none own.encoding base.encoding merged.encoding
  cities : Preferred [] own.cities base.cities merged.cities
  towns : Preferred [] own.towns base.towns merged.towns
  centerTowns : Preferred [] own.centerTowns base.centerTowns merged.centerTowns
  offboard : Offboard.Joined own.offboard base.offboard merged.offboard
  track : Preferred [] own.track base.track merged.track
  terrain : Preferred [] own.terrain base.terrain merged.terrain
  labels : Preferred [] own.labels base.labels merged.labels
  removedBorders : Preferred [] own.removedBorders base.removedBorders merged.removedBorders
  values : Preferred [] own.values base.values merged.values
  copy : Preferred none own.copy base.copy merged.copy
  broken : merged.broken = true ↔ own.broken = true ∨ base.broken = true
  variation : Preferred none own.variation base.variation merged.variation

theorem Offboard.laidOver_iff {own base merged : Offboard} :
    own.LaidOver base merged ↔ merged = own.inherit base := by
  constructor
  · intro h
    have hhidden : merged.hidden = (own.hidden || base.hidden) := by
      rw [Bool.eq_iff_iff, h.hidden, Bool.or_eq_true]
    exact (Offboard.mk.injEq ..).mpr ⟨h.revenues, hhidden, h.groups.unique (preferred_inheritList ..),
      h.name.unique (preferred_or ..)⟩
  · rintro rfl
    exact ⟨rfl, Bool.or_eq_true_iff, preferred_inheritList .., preferred_or ..⟩

theorem Offboard.joined_iff {own base merged : Option Offboard} :
    Offboard.Joined own base merged ↔ merged = inheritOffboard own base := by
  constructor
  · rintro (_ | area | area | hlaid)
    · rfl
    · rfl
    · rfl
    · exact congrArg some (Offboard.laidOver_iff.mp hlaid)
  · rintro rfl
    cases own with
    | none =>
        cases base with
        | none => exact .absent
        | some base => exact .inherited base
    | some own =>
        cases base with
        | none => exact .own own
        | some base => exact .both (Offboard.laidOver_iff.mpr rfl)

theorem Hex.laidOver_iff {own base merged : Hex} :
    own.LaidOver base merged ↔ merged = own.inherit base := by
  constructor
  · intro h
    have hbroken : merged.broken = (own.broken || base.broken) := by
      rw [Bool.eq_iff_iff, h.broken, Bool.or_eq_true]
    have hlists {α : Type} {own base result : List α} (hlist : Preferred [] own base result) :
        result = inheritList own base := hlist.unique (preferred_inheritList own base)
    have hentries {α : Type} {own base result : Option α} (hentry : Preferred none own base result) :
        result = own.or base := hentry.unique (preferred_or own base)
    exact (Hex.mk.injEq ..).mpr ⟨hentries h.color, h.coords, hentries h.encoding, hlists h.cities,
      hlists h.towns, hlists h.centerTowns, Offboard.joined_iff.mp h.offboard, hlists h.track,
      hlists h.terrain, hlists h.labels, hlists h.removedBorders, hlists h.values, hentries h.copy,
      hbroken, hentries h.variation⟩
  · rintro rfl
    exact ⟨preferred_or .., rfl, preferred_or .., preferred_inheritList .., preferred_inheritList ..,
      preferred_inheritList .., Offboard.joined_iff.mpr rfl, preferred_inheritList ..,
      preferred_inheritList .., preferred_inheritList .., preferred_inheritList ..,
      preferred_inheritList .., preferred_or .., Bool.or_eq_true_iff, preferred_or ..⟩

/-- Laying a hex over a base never fails, and its outcome is the one hex that is the one laid over the
other, field by field. -/
theorem Hex.merge_laidOver (base own : Hex) :
    (∃ merged, base.merge own = .ok merged) ∧
      ∀ merged, base.merge own = .ok merged ↔ own.LaidOver base merged := by
  rw [Hex.merge_eq_inherit]
  refine ⟨⟨_, rfl⟩, fun merged => ?_⟩
  rw [Hex.laidOver_iff, Except.ok.injEq, eq_comm]

end Rail18
