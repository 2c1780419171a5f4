/-! # Dictionaries in ascending key order

A dictionary keeps its entries by strictly ascending key, so that listing it needs no sorting and
two dictionaries with the same entries are equal. Inserting a key that is there replaces its value:
the last writer wins. -/

namespace Rail18

/-- Puts an entry in its place among ascending keys, in place of an entry with its key. -/
def insertEntry {κ α : Type} [Ord κ] (key : κ) (value : α) : List (κ × α) → List (κ × α)
  | [] => [(key, value)]
  | entry :: rest =>
    match compare key entry.1 with
    | .lt => (key, value) :: entry :: rest
    | .eq => (key, value) :: rest
    | .gt => entry :: insertEntry key value rest

def Ascending {κ α : Type} [Ord κ] (entries : List (κ × α)) : Prop :=
  entries.Pairwise fun a b => compare a.1 b.1 = .lt

section Order

variable {κ α : Type} [Ord κ]

theorem mem_insertEntry {key : κ} {value : α} {entries : List (κ × α)} {entry : κ × α}
    (h : entry ∈ insertEntry key value entries) : entry = (key, value) ∨ entry ∈ entries := by
  induction entries with
  | nil => exact .inl (by simpa [insertEntry] using h)
  | cons first rest ih =>
    rw [insertEntry] at h
    split at h
    · simpa [or_assoc] using h
    · rcases List.mem_cons.1 h with h | h
      · exact .inl h
      · exact .inr (List.mem_cons_of_mem _ h)
    · rcases List.mem_cons.1 h with h | h
      · exact .inr (h ▸ List.mem_cons_self)
      · exact (ih h).imp id (List.mem_cons_of_mem _)

theorem ascending_insertEntry [Std.TransOrd κ] [Std.LawfulEqOrd κ] (key : κ) (value : α)
    {entries : List (κ × α)} (h : Ascending entries) :
    Ascending (insertEntry key value entries) := by
  induction entries with
  | nil => simp [insertEntry, Ascending]
  | cons first rest ih =>
    obtain ⟨below, tail⟩ := List.pairwise_cons.1 h
    rw [insertEntry]
    split
    · next lt =>
      refine List.pairwise_cons.2 ⟨fun entry mem => ?_, h⟩
      rcases List.mem_cons.1 mem with rfl | mem
      · exact lt
      · exact Std.TransCmp.lt_trans lt (below entry mem)
    · next eq =>
      have same : key = first.1 := Std.LawfulEqOrd.compare_eq_iff_eq.1 eq
      exact List.pairwise_cons.2 ⟨fun entry mem => same ▸ below entry mem, tail⟩
    · next gt =>
      refine List.pairwise_cons.2 ⟨fun entry mem => ?_, ih tail⟩
      rcases mem_insertEntry mem with rfl | mem
      · exact Std.OrientedCmp.lt_of_gt gt
      · exact below entry mem

end Order

/-- A dictionary with keys in strictly ascending order. -/
structure Dict (κ α : Type) [Ord κ] where
  entries : List (κ × α)
  ascending : Ascending entries

namespace Dict

variable {κ α β : Type} [Ord κ]

def empty : Dict κ α := ⟨[], .nil⟩

def get? (d : Dict κ α) (key : κ) : Option α :=
  (d.entries.find? fun entry => compare entry.1 key == .eq).map (·.2)

def contains (d : Dict κ α) (key : κ) : Bool := (d.get? key).isSome

def values (d : Dict κ α) : List α := d.entries.map (·.2)

def size (d : Dict κ α) : Nat := d.entries.length

def insert [Std.TransOrd κ] [Std.LawfulEqOrd κ] (d : Dict κ α) (key : κ) (value : α) : Dict κ α :=
  ⟨insertEntry key value d.entries, ascending_insertEntry key value d.ascending⟩

/-- The dictionary of a list of entries; of several with one key the last one counts. -/
def ofList [Std.TransOrd κ] [Std.LawfulEqOrd κ] (entries : List (κ × α)) : Dict κ α :=
  entries.foldl (fun d entry => d.insert entry.1 entry.2) empty

theorem ext {d e : Dict κ α} (h : d.entries = e.entries) : d = e := by
  cases d; cases e; cases h; rfl

end Dict

end Rail18
