import Mathlib.Data.List.Nodup
import Mathlib.Data.List.Lookmap
import Rail18.Json.Merge

/-!
# The members of a merged object

What an object holds under a name after another has been laid over it. The order of the members does
not matter to a reader, so the merge is known by what a lookup finds and by its names being distinct.
-/

namespace Rail18.Json

theorem lookup_cons (name first : String) (value : Value) (rest : List (String × Value)) :
    ((first, value) :: rest).lookup name = if name = first then some value else rest.lookup name := by
  by_cases hname : name = first
  · simp [hname]
  · rw [List.lookup_cons, beq_eq_false_iff_ne.mpr hname, if_neg hname]

theorem lookup_eq_none_of_not_mem {name : String} {members : List (String × Value)}
    (h : name ∉ members.map Prod.fst) : members.lookup name = none := by
  rw [List.lookup_eq_none_iff]
  intro member hmember
  rw [bne_iff_ne]
  rintro rfl
  exact h (List.mem_map_of_mem hmember)

theorem lookup_putMember (name other : String) (value : Value) (members : List (String × Value)) :
    (putMember name value members).lookup other =
      if other = name then some value else members.lookup other := by
  induction members with
  | nil => rw [putMember, lookup_cons]
  | cons member rest ih =>
      obtain ⟨first, old⟩ := member
      by_cases hfirst : first = name
      · subst hfirst
        rw [putMember, if_pos rfl, lookup_cons, lookup_cons]
        split <;> rfl
      · rw [putMember, if_neg hfirst, lookup_cons, lookup_cons, ih]
        by_cases hother : other = first
        · subst hother
          rw [if_pos rfl, if_neg hfirst, if_pos rfl]
        · rw [if_neg hother, if_neg hother]

theorem map_fst_putMember (name : String) (value : Value) (members : List (String × Value)) :
    (putMember name value members).map Prod.fst =
      if name ∈ members.map Prod.fst then members.map Prod.fst
      else members.map Prod.fst ++ [name] := by
  induction members with
  | nil => rfl
  | cons member rest ih =>
      obtain ⟨first, old⟩ := member
      by_cases hfirst : first = name
      · simp [putMember, hfirst]
      · rw [putMember, if_neg hfirst, List.map_cons, ih]
        by_cases hrest : name ∈ rest.map Prod.fst
        · simp [hrest]
        · simp [hrest, Ne.symm hfirst]

theorem nodup_putMember (name : String) (value : Value) {members : List (String × Value)}
    (hmembers : (members.map Prod.fst).Nodup) :
    ((putMember name value members).map Prod.fst).Nodup := by
  rw [map_fst_putMember]
  split
  · exact hmembers
  · next hfresh =>
      rw [List.nodup_append']
      exact ⟨hmembers, List.nodup_singleton name, by simpa using hfresh⟩

theorem nodup_mergeMembers (overlay : List (String × Value)) {base : List (String × Value)}
    (hbase : (base.map Prod.fst).Nodup) : ((mergeMembers base overlay).map Prod.fst).Nodup := by
  induction overlay generalizing base with
  | nil => simpa [mergeMembers] using hbase
  | cons member rest ih =>
      rw [mergeMembers]
      exact ih (nodup_putMember _ _ hbase)

/-- Laying an object over another brings in no names but those of the two. -/
theorem mem_map_fst_mergeMembers {name : String} {base overlay : List (String × Value)}
    (h : name ∈ (mergeMembers base overlay).map Prod.fst) :
    name ∈ base.map Prod.fst ∨ name ∈ overlay.map Prod.fst := by
  induction overlay generalizing base with
  | nil => exact .inl (by simpa [mergeMembers] using h)
  | cons member rest ih =>
      rw [mergeMembers] at h
      rcases ih h with hput | hrest
      · rw [map_fst_putMember] at hput
        split at hput
        · exact .inl hput
        · rcases List.mem_append.mp hput with hbase | hname
          · exact .inl hbase
          · exact .inr (by simp [List.mem_singleton.mp hname])
      · exact .inr (List.mem_cons_of_mem _ hrest)

/-- What an object holds under a name with a value laid over it. -/
def overlaid (old : Option Value) (value : Value) : Value :=
  match old with
  | some old => old.merge value
  | none => value

theorem lookup_mergeMembers {overlay : List (String × Value)}
    (hoverlay : (overlay.map Prod.fst).Nodup) (base : List (String × Value)) (name : String) :
    (mergeMembers base overlay).lookup name =
      match overlay.lookup name with
      | some value => some (overlaid (base.lookup name) value)
      | none => base.lookup name := by
  induction overlay generalizing base with
  | nil => simp [mergeMembers]
  | cons member rest ih =>
      obtain ⟨first, value⟩ := member
      rw [List.map_cons, List.nodup_cons] at hoverlay
      have hrest : rest.lookup first = none := lookup_eq_none_of_not_mem hoverlay.1
      rw [mergeMembers, ih hoverlay.2, lookup_putMember, lookup_cons]
      by_cases hname : name = first
      · subst hname
        rw [hrest, if_pos rfl, if_pos rfl]
        cases base.lookup name <;> rfl
      · rw [if_neg hname, if_neg hname]

end Rail18.Json
