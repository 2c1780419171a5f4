import Rail18.Proofs.Json.Record

/-!
# What is read can be passed over

Two readers of one text may ask for different parts of it, and what one of them reads the other passes
over. Passing over forgives all that reading forgives. So a reader that reads more than another one never
lets a fault through that would stop the other on its way.
-/

namespace Rail18.Json

namespace Ending

variable {ending : Ending}

theorem eq_closed (h : ending.keep = .ok ()) : ending = .closed := by
  cases ending with
  | closed => rfl
  | missing | dangling => cases h

theorem eq_closed_of_afterLast (h : ending.afterLast.keep = .ok ()) : ending = .closed := by
  cases ending with
  | closed => rfl
  | missing | dangling => cases h

theorem skip_of_keep (h : ending.keep = .ok ()) : ending.skip = .ok () := by
  rw [eq_closed h]
  rfl

end Ending

mutual

theorem Node.skip_of_keep : (node : Node) → {room : Nat} → {value : Value} →
    node.keep room = .ok value → node.skip = .ok ()
  | .null, _, _, _ | .bool _, _, _, _ | .number _, _, _, _ | .string _, _, _, _ => rfl
  | .array items ending, room, value, h => by
      cases room with
      | zero => cases h
      | succ room =>
          obtain ⟨values, hitems, h⟩ := bind_eq_ok.mp h
          obtain ⟨_, hending, -⟩ := bind_eq_ok.mp h
          rw [Node.skip, skipItems_of_keepItems items hitems]
          exact Ending.skip_of_keep hending
  | .object members ending, room, value, h => by
      cases room with
      | zero => cases h
      | succ room =>
          obtain ⟨values, hmembers, h⟩ := bind_eq_ok.mp h
          obtain ⟨_, hending, -⟩ := bind_eq_ok.mp h
          rw [Node.skip, skipMembers_of_keepMembers members hmembers]
          exact Ending.skip_of_keep hending
  | .broken _ _, _, _, h => by cases h

theorem skipItems_of_keepItems : (items : List Node) → {room : Nat} → {values : List Value} →
    keepItems room items = .ok values → skipItems items = .ok ()
  | [], _, _, _ => rfl
  | node :: rest, room, values, h => by
      obtain ⟨value, hnode, h⟩ := bind_eq_ok.mp h
      obtain ⟨values, hrest, -⟩ := bind_eq_ok.mp h
      rw [skipItems, node.skip_of_keep hnode]
      exact skipItems_of_keepItems rest hrest

theorem skipMembers_of_keepMembers : (members : List (Except Fault String × Node)) → {room : Nat} →
    {values : List (String × Value)} → keepMembers room members = .ok values →
    skipMembers members = .ok ()
  | [], _, _, _ => rfl
  | (name, node) :: rest, room, values, h => by
      obtain ⟨text, -, h⟩ := bind_eq_ok.mp h
      obtain ⟨value, hnode, h⟩ := bind_eq_ok.mp h
      obtain ⟨values, hrest, -⟩ := bind_eq_ok.mp h
      rw [skipMembers, node.skip_of_keep hnode]
      exact skipMembers_of_keepMembers rest hrest

end

mutual

@[simp]
theorem Value.skip_node : (value : Value) → value.node.skip = .ok ()
  | .null | .bool _ | .number _ | .string _ => rfl
  | .array items => by
      rw [Value.node, Node.skip, skipItems_nodes items]
      rfl
  | .object members => by
      rw [Value.node, Node.skip, skipMembers_memberNodes members]
      rfl

theorem skipItems_nodes : (items : List Value) → skipItems (nodes items) = .ok ()
  | [] => rfl
  | value :: rest => by
      rw [nodes, skipItems, value.skip_node]
      exact skipItems_nodes rest

theorem skipMembers_memberNodes : (members : List (String × Value)) →
    skipMembers (memberNodes members) = .ok ()
  | [] => rfl
  | (name, value) :: rest => by
      rw [memberNodes, skipMembers, value.skip_node]
      exact skipMembers_memberNodes rest

end

/-- Whether a node is one token. -/
def Node.isScalar : Node → Bool
  | .null | .bool _ | .number _ | .string _ => true
  | _ => false

namespace Reader

variable {α β : Type}

/-- A reader is thorough if whatever it reads can be passed over. -/
def Thorough (read : Reader α) : Prop :=
  ∀ room node item, read room node = .ok item → node.skip = .ok ()

theorem value_thorough : Thorough value := fun _ node _ h => node.skip_of_keep h

/-- A reader is plain if it reads nothing but single tokens. -/
def Plain (read : Reader α) : Prop :=
  ∀ room node item, read room node = .ok item → node.isScalar = true

theorem Plain.thorough {read : Reader α} (h : Plain read) : Thorough read := by
  intro room node item hread
  have hscalar := h room node item hread
  cases node with
  | null | bool | number | string => rfl
  | array | object | broken => cases hscalar

theorem text_plain : Plain text := by
  intro room node item h
  cases node with
  | string => rfl
  | _ => cases h

theorem bool_plain : Plain bool := by
  intro room node item h
  cases node with
  | bool => rfl
  | _ => cases h

theorem integer_plain (word? : Int → Option α) : Plain (integer word?) := by
  intro room node item h
  cases node with
  | number => rfl
  | _ => cases h

theorem Plain.map {read : Reader α} (h : Plain read) (f : α → β) : Plain (.map f read) := by
  intro room node item hitem
  obtain ⟨entry, hentry, -⟩ := map_eq_ok.mp hitem
  exact h room node entry hentry

theorem oneOf_plain {readers : List (Reader α)} (h : ∀ read ∈ readers, Plain read) :
    Plain (oneOf readers) := by
  intro room node item hitem
  obtain ⟨_, -, hitem⟩ := bind_eq_ok.mp hitem
  cases hfirst : firstOf readers room node with
  | none => simp [hfirst] at hitem
  | some found =>
      obtain ⟨read, hread, hfound⟩ := List.exists_of_findSome?_eq_some hfirst
      cases hnode : read room node with
      | error fault => simp [hnode, Except.toOption] at hfound
      | ok entry => exact h read hread room node entry hnode

theorem oneOf_thorough (readers : List (Reader α)) : Thorough (oneOf readers) := by
  intro room node item h
  obtain ⟨value, hkeep, -⟩ := bind_eq_ok.mp h
  exact node.skip_of_keep hkeep

theorem skipItems_of_items {read : Reader α} {room : Nat} (hread : Thorough read) {nodes : List Node}
    {list : List α} (h : items read room nodes = .ok list) : skipItems nodes = .ok () := by
  induction nodes generalizing list with
  | nil => rfl
  | cons node rest ih =>
      obtain ⟨item, hitem, h⟩ := bind_eq_ok.mp h
      obtain ⟨others, hothers, -⟩ := bind_eq_ok.mp h
      rw [skipItems, hread room node item hitem]
      exact ih hothers

theorem skipMembers_of_members {read : Reader α} {room : Nat} (hread : Thorough read)
    {nodes : List (Except Fault String × Node)} {entries : List (String × α)}
    (h : members read room nodes = .ok entries) : skipMembers nodes = .ok () := by
  induction nodes generalizing entries with
  | nil => rfl
  | cons member rest ih =>
      obtain ⟨name, node⟩ := member
      obtain ⟨text, -, h⟩ := bind_eq_ok.mp h
      obtain ⟨item, hitem, h⟩ := bind_eq_ok.mp h
      obtain ⟨others, hothers, -⟩ := bind_eq_ok.mp h
      rw [skipMembers, hread room node item hitem]
      exact ih hothers

namespace Thorough

variable {read : Reader α}

theorem option (hread : Thorough read) : Thorough (.option read) := by
  intro room node item h
  by_cases hnull : node = .null
  · subst hnull
    rfl
  · rw [option_of_ne_null read room hnull] at h
    obtain ⟨entry, hentry, -⟩ := map_eq_ok.mp h
    exact hread room node entry hentry

theorem list (hread : Thorough read) : Thorough (.list read) := by
  intro room node list h
  cases node with
  | array nodes ending =>
      cases room with
      | zero => cases h
      | succ room =>
          obtain ⟨items, hitems, h⟩ := bind_eq_ok.mp h
          obtain ⟨_, hending, -⟩ := bind_eq_ok.mp h
          rw [Node.skip, skipItems_of_items hread hitems]
          exact Ending.skip_of_keep hending
  | _ => cases room <;> cases h

theorem dict (hread : Thorough read) : Thorough (.dict read) := by
  intro room node dict h
  cases node with
  | object nodes ending =>
      cases room with
      | zero => cases h
      | succ room =>
          obtain ⟨entries, hentries, h⟩ := bind_eq_ok.mp h
          obtain ⟨_, hending, -⟩ := bind_eq_ok.mp h
          rw [Node.skip, skipMembers_of_members hread hentries]
          exact Ending.skip_of_keep hending
  | _ => cases room <;> cases h

end Thorough

end Reader

/-! ### Records -/

namespace Record

variable {F : Type} [DecidableEq F] [Fields F]

/-- The fields of a record are thorough if the reader of each one is. -/
def Thorough (F : Type) [DecidableEq F] [Fields F] : Prop :=
  ∀ field : F, Reader.Thorough (Fields.read field)

theorem skipMembers_of_readMembers (hfields : Thorough F) {room : Nat}
    {members : List (Except Fault String × Node)} {record read : Record F}
    (h : readMembers room members record = .ok read) : skipMembers members = .ok () := by
  induction members generalizing record with
  | nil => rfl
  | cons member rest ih =>
      obtain ⟨name, node⟩ := member
      obtain ⟨_, -, ⟨-, hskip, hrest⟩ | ⟨field, entry, -, -, hentry, hrest⟩⟩ := readMembers_cons.mp h
      · rw [skipMembers, hskip]
        exact ih hrest
      · rw [skipMembers, hfields field room node entry hentry]
        exact ih hrest

theorem skipItems_of_readItems (hfields : Thorough F) {room : Nat} {ending : Ending} {fields : List F}
    {nodes : List Node} {record read : Record F}
    (h : readItems room ending fields nodes record = .ok read) : skipItems nodes = .ok () := by
  induction nodes generalizing fields record with
  | nil => rfl
  | cons node rest ih =>
      cases fields with
      | nil => cases h
      | cons field fields =>
          obtain ⟨entry, hentry, hrest⟩ := bind_eq_ok.mp h
          rw [skipItems, hfields field room node entry hentry]
          exact ih hrest

theorem keep_of_readItems {room : Nat} {ending : Ending} {fields : List F} {nodes : List Node}
    {record read : Record F} (h : readItems room ending fields nodes record = .ok read) :
    ending.keep = .ok () := by
  induction nodes generalizing fields record with
  | nil =>
      rw [readItems] at h
      obtain ⟨_, hending, -⟩ := bind_eq_ok.mp h
      exact hending
  | cons node rest ih =>
      cases fields with
      | nil => cases h
      | cons field fields =>
          obtain ⟨_, -, hrest⟩ := bind_eq_ok.mp h
          exact ih hrest

end Record

namespace Reader

variable {F α : Type} [DecidableEq F] [Fields F] {build : Record F → Except Fault α}

/-- An array that is read as a record ends with its bracket. -/
theorem record_array {room : Nat} {nodes : List Node} {ending : Ending} {item : α}
    (h : Reader.record build (room + 1) (.array nodes ending) = .ok item) :
    ending = .closed ∧ ∃ record, Record.readItems room .closed Fields.order nodes .empty = .ok record ∧
      build record = .ok item := by
  obtain ⟨record, hrecord, hbuild⟩ := bind_eq_ok.mp h
  have hkeep := Record.keep_of_readItems hrecord
  have hclosed : ending = .closed := by
    split at hkeep
    · exact Ending.eq_closed hkeep
    · exact Ending.eq_closed_of_afterLast hkeep
  subst hclosed
  simp only [Ending.afterLast, ite_self] at hrecord
  exact ⟨rfl, record, hrecord, hbuild⟩

theorem record_thorough (hfields : Record.Thorough F) (build : Record F → Except Fault α) :
    Thorough (Reader.record build) := by
  intro room node item h
  cases node with
  | array nodes ending =>
      cases room with
      | zero => cases h
      | succ room =>
          obtain ⟨rfl, record, hrecord, -⟩ := record_array h
          rw [Node.skip, Record.skipItems_of_readItems hfields hrecord]
          rfl
  | object members ending =>
      cases room with
      | zero => cases h
      | succ room =>
          obtain ⟨record, hrecord, hrest⟩ := bind_eq_ok.mp h
          obtain ⟨_, hending, -⟩ := bind_eq_ok.mp hrest
          rw [Node.skip, Record.skipMembers_of_readMembers hfields hrecord]
          exact Ending.skip_of_keep hending
  | _ => cases room <;> cases h

end Reader

end Rail18.Json
