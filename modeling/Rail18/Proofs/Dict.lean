import Rail18.Dict

/-!
# Entries of a dictionary

What is found under a key after an entry has been put in: the entry under its own key, and under any other
key what was there before.
-/

namespace Rail18

section Entries

variable {κ α : Type} [Ord κ] [Std.LawfulEqOrd κ] {entries : List (κ × α)} {key other : κ}
  {value : α}

theorem find?_insertEntry_of_ne (hne : other ≠ key) :
    (insertEntry key value entries).find? (fun entry => compare entry.1 other == .eq) =
      entries.find? fun entry => compare entry.1 other == .eq := by
  have hskip : (compare key other == .eq) = false :=
    beq_eq_false_iff_ne.mpr fun heq => hne (Std.LawfulEqOrd.compare_eq_iff_eq.mp heq).symm
  induction entries with
  | nil => simp only [insertEntry, List.find?_cons, hskip]
  | cons first rest ih =>
      rw [insertEntry]
      split
      · simp only [List.find?_cons, hskip]
      · next heq =>
        obtain ⟨name, content⟩ := first
        obtain rfl : key = name := Std.LawfulEqOrd.compare_eq_iff_eq.mp heq
        simp only [List.find?_cons, hskip]
      · rw [List.find?_cons, List.find?_cons, ih]

variable [Std.TransOrd κ]

theorem insertEntry_of_mem (hascending : Ascending entries) (hmem : (key, value) ∈ entries) :
    insertEntry key value entries = entries := by
  induction entries with
  | nil => cases hmem
  | cons first rest ih =>
      obtain ⟨hbelow, hrest⟩ := List.pairwise_cons.mp hascending
      obtain rfl | hmem := List.mem_cons.mp hmem
      · have heq : compare key key = .eq := Std.ReflCmp.compare_self
        rw [insertEntry, heq]
      · have hgt : compare key first.1 = .gt := Std.OrientedCmp.gt_of_lt (hbelow _ hmem)
        rw [insertEntry, hgt, ih hrest hmem]

theorem find?_insertEntry_self :
    (insertEntry key value entries).find? (fun entry => compare entry.1 key == .eq) =
      some (key, value) := by
  have heq : compare key key = .eq := Std.ReflCmp.compare_self
  induction entries with
  | nil => simp [insertEntry]
  | cons first rest ih =>
      rw [insertEntry]
      split
      · simp
      · simp
      · next hgt =>
        have hlt : compare first.1 key = .lt := Std.OrientedCmp.lt_of_gt hgt
        simp [hlt, ih]

namespace Dict

variable {d : Dict κ α}

theorem get?_insert_self : (d.insert key value).get? key = some value := by
  rw [get?, insert, find?_insertEntry_self]
  rfl

theorem get?_insert_of_ne (hne : other ≠ key) : (d.insert key value).get? other = d.get? other := by
  rw [get?, insert, find?_insertEntry_of_ne hne, get?]

theorem insert_of_get? (h : d.get? key = some value) : d.insert key value = d := by
  obtain ⟨⟨name, content⟩, hfind, rfl⟩ := Option.map_eq_some_iff.mp h
  have heq := List.find?_some hfind
  obtain rfl : name = key := Std.LawfulEqOrd.compare_eq_iff_eq.mp (beq_iff_eq.mp heq)
  exact Dict.ext (insertEntry_of_mem d.ascending (List.mem_of_find?_eq_some hfind))

end Dict

end Entries

end Rail18
