import Rail18.Proofs.Json.Skipping

/-!
# Reading less of a record

A narrow reader asks for one field only of what a wide reader reads as a whole record. In an object it
passes over all that the wide reader reads beside that field. An array of items is another matter: it may
not hold more items than the record has fields, so that the narrow reader refuses what has a second item.
-/

namespace Rail18.Json

/-- The first member with a name. -/
def memberNode? (name : String) : List (Except Fault String × Node) → Option Node
  | [] => none
  | (other, node) :: rest =>
    if other.toOption = some name then some node else memberNode? name rest

@[simp]
theorem memberNode?_cons (name text : String) (node : Node)
    (rest : List (Except Fault String × Node)) :
    memberNode? name ((.ok text, node) :: rest) =
      if text = name then some node else memberNode? name rest := by
  simp [memberNode?, Except.toOption]

namespace Node

/-- Where the first field of a record stands: it is the member with the field's name, or the first item. -/
def first? (name : String) : Node → Option Node
  | .array nodes _ => nodes.head?
  | .object members _ => memberNode? name members
  | _ => none

/-- Whether it is an array of more than one item. -/
def isLong : Node → Bool
  | .array nodes _ => 1 < nodes.length
  | _ => false

end Node

/-- A field that is the first one of its record, and a field of the same name that is the only one. -/
structure Heads {F G : Type} [DecidableEq F] [DecidableEq G] [Fields F] [Fields G] (wide : F)
    (narrow : G) : Prop where
  first : ∃ others, Fields.order = wide :: others ∧ wide ∉ others
  sole : Fields.order = [narrow]
  name : Fields.name narrow = Fields.name wide

variable {F G α β : Type} [DecidableEq F] [DecidableEq G] [Fields F] [Fields G] {wide : F} {narrow : G}

namespace Heads

theorem field?_wide (h : Heads wide narrow) : Record.field? F (Fields.name wide) = some wide := by
  obtain ⟨others, horder, -⟩ := h.first
  simp [Record.field?, horder]

theorem field?_narrow (h : Heads wide narrow) (name : String) :
    Record.field? G name = if name = Fields.name wide then some narrow else none := by
  by_cases hname : name = Fields.name wide
  · simp [Record.field?, h.sole, h.name, hname]
  · simp [Record.field?, h.sole, h.name, hname, Ne.symm hname]

end Heads

namespace Record

/-- A member that is not the field's can be passed over, whatever the wide reader makes of it. -/
theorem readMembers_other (hfields : Thorough F) {room : Nat} {text : String} {node : Node}
    {rest : List (Except Fault String × Node)} {record read : Record F}
    (hname : text ≠ Fields.name wide)
    (hread : readMembers room ((.ok text, node) :: rest) record = .ok read) :
    node.skip = .ok () ∧ ∃ next : Record F, next wide = record wide ∧
      readMembers room rest next = .ok read := by
  obtain ⟨_, htext, hmember⟩ := readMembers_cons.mp hread
  obtain rfl := Except.ok.inj htext
  obtain ⟨-, hskip, hrest⟩ | ⟨field, entry, hfield, -, hentry, hrest⟩ := hmember
  · exact ⟨hskip, record, rfl, hrest⟩
  · have hne : field ≠ wide := by
      rintro rfl
      exact hname (name_of_field? hfield).symm
    exact ⟨hfields field room node entry hentry, _, set_of_ne record entry hne, hrest⟩

/-- A field that is filled already stays as it is, and no member has its name. One that is empty is read
from the very member that the narrow reader reads. -/
theorem readMembers_narrow (h : Heads wide narrow) (hfields : Thorough F) {room : Nat}
    {members : List (Except Fault String × Node)} {record read : Record F}
    (hread : readMembers room members record = .ok read) (own : Record G) :
    (record wide ≠ none → read wide = record wide ∧ readMembers room members own = .ok own) ∧
      (record wide = none → own narrow = none →
        match memberNode? (Fields.name wide) members with
        | none => read wide = none ∧ readMembers room members own = .ok own
        | some node => ∃ entry, Fields.read wide room node = .ok entry ∧ read wide = some entry ∧
            readMembers room members own = (Fields.read narrow room node).map (own.set narrow)) := by
  induction members generalizing record own with
  | nil =>
      obtain rfl := Except.ok.inj hread
      exact ⟨fun _ => ⟨rfl, rfl⟩, fun hnone _ => ⟨hnone, rfl⟩⟩
  | cons member rest ih =>
      obtain ⟨name, node⟩ := member
      obtain ⟨text, rfl, hmember⟩ := readMembers_cons.mp hread
      by_cases hname : text = Fields.name wide
      · subst hname
        obtain ⟨hunknown, -⟩ | ⟨field, entry, hfield, hempty, hentry, hrest⟩ := hmember
        · rw [h.field?_wide] at hunknown
          cases hunknown
        · obtain rfl : wide = field := Option.some.inj (h.field?_wide.symm.trans hfield)
          have hfilled : (record.set wide entry) wide = some entry := set_self ..
          have hafter (own : Record G) := (ih hrest own).1 (by simp)
          refine ⟨fun hsome => absurd hempty hsome, fun _ hown => ?_⟩
          rw [memberNode?_cons, if_pos rfl]
          refine ⟨entry, hentry, (hafter own).1.trans hfilled, ?_⟩
          have hnarrow : field? G (Fields.name wide) = some narrow := by
            rw [h.field?_narrow, if_pos rfl]
          simp only [readMembers, hnarrow, hown, Option.isSome_none, Bool.false_eq_true, if_false, bind,
            Except.bind]
          cases Fields.read narrow room node with
          | error fault => rfl
          | ok entry => exact (hafter _).2
      · obtain ⟨hskip, next, hsame, hrest⟩ := readMembers_other hfields hname hread
        have hstep : readMembers room ((.ok text, node) :: rest) own = readMembers room rest own := by
          simp only [readMembers, h.field?_narrow, if_neg hname, hskip, bind, Except.bind]
        rw [← hsame, hstep, memberNode?_cons, if_neg hname]
        exact ih hrest own

theorem readItems_of_not_mem {room : Nat} {ending : Ending} {fields : List F} {nodes : List Node}
    {record read : Record F} {field : F} (hfield : field ∉ fields)
    (h : readItems room ending fields nodes record = .ok read) : read field = record field := by
  induction nodes generalizing fields record with
  | nil =>
      rw [readItems] at h
      obtain ⟨_, -, h⟩ := bind_eq_ok.mp h
      obtain rfl := Except.ok.inj h
      rfl
  | cons node rest ih =>
      cases fields with
      | nil => cases h
      | cons first others =>
          obtain ⟨entry, -, h⟩ := bind_eq_ok.mp h
          rw [List.mem_cons, not_or] at hfield
          exact (ih hfield.2 h).trans (set_of_ne record entry (Ne.symm hfield.1))

/-- The first item is what the narrow reader looks at; it refuses a second one. -/
theorem readItems_narrow (h : Heads wide narrow) {room : Nat} {ending : Ending} {nodes : List Node}
    {read : Record F} (hending : ending.keep = .ok ())
    (hread : readItems room ending Fields.order nodes .empty = .ok read) (own : Record G) :
    match nodes with
    | [] => read wide = none ∧ readItems room ending [narrow] [] own = .ok own
    | first :: rest => ∃ entry, Fields.read wide room first = .ok entry ∧ read wide = some entry ∧
        readItems room ending [narrow] (first :: rest) own =
          (Fields.read narrow room first >>= fun entry =>
            if rest = [] then .ok (own.set narrow entry) else .error .malformed) := by
  obtain ⟨others, horder, hothers⟩ := h.first
  cases nodes with
  | nil =>
      simp only [readItems, hending, bind, Except.bind, pure, Except.pure] at hread ⊢
      obtain rfl := Except.ok.inj hread
      simp [empty]
  | cons first rest =>
      rw [horder] at hread
      obtain ⟨entry, hentry, hrest⟩ := bind_eq_ok.mp hread
      have hkept : read wide = some entry := (readItems_of_not_mem hothers hrest).trans (set_self ..)
      refine ⟨entry, hentry, hkept, ?_⟩
      cases rest with
      | nil => simp [readItems, hending, bind, Except.bind, pure, Except.pure]
      | cons second rest => simp [readItems, bind, Except.bind]

end Record

namespace Reader

/-- What a wide reader reads, a narrow one reads a part of, unless it refuses the node. -/
def Narrows (wide : Reader α) (narrow : Reader β) (part : α → β) (refuses : Node → Bool) : Prop :=
  ∀ room node item, wide room node = .ok item →
    narrow room node = if refuses node then .error .malformed else .ok (part item)

theorem narrows_self (read : Reader α) : Narrows read read id fun _ => false := fun _ _ _ h => h

theorem Narrows.option {wide : Reader α} {narrow : Reader β} {part : α → β} {refuses : Node → Bool}
    (h : Narrows wide narrow part refuses) (hnull : refuses .null = false) :
    Narrows (.option wide) (.option narrow) (Option.map part) refuses := by
  intro room node item hitem
  by_cases hnode : node = .null
  · subst hnode
    obtain rfl := Except.ok.inj hitem
    rw [hnull]
    rfl
  · rw [option_of_ne_null wide room hnode] at hitem
    obtain ⟨entry, hentry, rfl⟩ := map_eq_ok.mp hitem
    rw [option_of_ne_null narrow room hnode, h room node entry hentry]
    cases refuses node <;> rfl

section Record

variable {part : Fields.Entry wide → Fields.Entry narrow} {refuses : Node → Bool}
  {build : Record F → Except Fault α} {own : Record G → Except Fault β} {whole : α → β}

/-- What the narrow reader builds of its field is a part of what the wide reader builds of a record. -/
def Builds (part : Fields.Entry wide → Fields.Entry narrow) (build : Record F → Except Fault α)
    (own : Record G → Except Fault β) (whole : α → β) : Prop :=
  ∀ record item, build record = .ok item → ∀ less : Record G,
    less narrow = (record wide).map part → own less = .ok (whole item)

theorem Builds.empty (h : Builds part build own whole) {record : Record F} {item : α}
    (hitem : build record = .ok item) (hnone : record wide = none) :
    own .empty = .ok (whole item) := by
  apply h record item hitem
  rw [hnone]
  rfl

theorem Builds.set (h : Builds part build own whole) {record : Record F} {item : α}
    {entry : Fields.Entry wide} (hitem : build record = .ok item) (hsome : record wide = some entry) :
    own (Record.empty.set narrow (part entry)) = .ok (whole item) := by
  apply h record item hitem
  rw [hsome, Record.set_self]
  rfl

variable (h : Heads wide narrow) (hfields : Record.Thorough F)
  (hfield : Narrows (Fields.read wide) (Fields.read narrow) part refuses)
  (hbuild : Builds part build own whole)

include h hfields hfield hbuild

theorem record_object_narrow {room : Nat} {members : List (Except Fault String × Node)}
    {ending : Ending} {item : α}
    (hitem : Reader.record build (room + 1) (.object members ending) = .ok item) :
    Reader.record own (room + 1) (.object members ending) =
      if (memberNode? (Fields.name wide) members).any refuses then .error .malformed
      else .ok (whole item) := by
  obtain ⟨record, hrecord, hrest⟩ := bind_eq_ok.mp hitem
  obtain ⟨⟨⟩, hending, hbuilt⟩ := bind_eq_ok.mp hrest
  have hnarrow := (Record.readMembers_narrow h hfields hrecord .empty).2 rfl rfl
  have hstep : Reader.record own (room + 1) (.object members ending) =
      (Record.readMembers room members .empty >>= own) := by
    simp [Reader.record, Reader.object, hending, bind, Except.bind]
  rw [hstep]
  cases hfirst : memberNode? (Fields.name wide) members with
  | none =>
      rw [hfirst] at hnarrow
      obtain ⟨hnone, hread⟩ := hnarrow
      rw [hread]
      exact hbuild.empty hbuilt hnone
  | some first =>
      rw [hfirst] at hnarrow
      obtain ⟨entry, hentry, hsome, hread⟩ := hnarrow
      rw [hread, hfield room first entry hentry, Option.any_some]
      cases refuses first with
      | true => rfl
      | false => exact hbuild.set hbuilt hsome

omit hfields in
theorem record_array_narrow {room : Nat} {nodes : List Node} {ending : Ending} {item : α}
    (hitem : Reader.record build (room + 1) (.array nodes ending) = .ok item) :
    Reader.record own (room + 1) (.array nodes ending) =
      if 1 < nodes.length ∨ nodes.head?.any refuses then .error .malformed
      else .ok (whole item) := by
  obtain ⟨rfl, record, hrecord, hbuilt⟩ := record_array hitem
  have hnarrow := Record.readItems_narrow h rfl hrecord .empty
  have hstep : Reader.record own (room + 1) (.array nodes .closed) =
      (Record.readItems room .closed [narrow] nodes .empty >>= own) := by
    simp [Reader.record, h.sole, Ending.afterLast]
  rw [hstep]
  cases nodes with
  | nil =>
      obtain ⟨hnone, hread⟩ := hnarrow
      rw [hread]
      exact hbuild.empty hbuilt hnone
  | cons first rest =>
      obtain ⟨entry, hentry, hsome, hread⟩ := hnarrow
      rw [hread, hfield room first entry hentry]
      have hown := hbuild.set hbuilt hsome
      cases hrefused : refuses first <;> cases rest <;> simp [hrefused, hown, bind, Except.bind]

/-- A reader of one field narrows a reader of a whole record. It refuses an array of several items, and
what it refuses in the field. -/
theorem Narrows.record :
    Narrows (Reader.record build) (Reader.record own) whole fun node =>
      node.isLong || (node.first? (Fields.name wide)).any refuses := by
  intro room node item hitem
  cases room with
  | zero => cases node <;> cases hitem
  | succ room =>
      cases node with
      | object members ending => exact record_object_narrow h hfields hfield hbuild hitem
      | array nodes ending =>
          rw [record_array_narrow h hfield hbuild hitem]
          congr 1
          simp [Node.isLong, Node.first?]
      | _ => cases hitem

end Record

end Reader

end Rail18.Json
