import Mathlib.Data.List.Induction
import Mathlib.Data.List.Nodup
import Mathlib.Data.List.Perm.Basic
import Rail18.Grouping

/-!
# What grouping gathers

The groups of a list of items have the keys of the items, each once and in the order of first
appearance, and the group of a key is made of the items with this key alone, in their order.
-/

namespace Rail18

variable {ι κ α : Type} [DecidableEq κ]

/-! ### Keys -/

theorem eraseDups_concat (keys : List κ) (key : κ) :
    (keys ++ [key]).eraseDups = if key ∈ keys then keys.eraseDups else keys.eraseDups ++ [key] := by
  rw [List.eraseDups_append]
  by_cases hmem : key ∈ keys
  · simp [List.removeAll, hmem]
  · simp [List.removeAll, hmem, List.eraseDups_cons]

theorem nodup_eraseDups (keys : List κ) : keys.eraseDups.Nodup := by
  induction keys using List.reverseRecOn with
  | nil => exact List.nodup_nil
  | append_singleton keys key ih =>
      rw [eraseDups_concat]
      by_cases hmem : key ∈ keys
      · rwa [if_pos hmem]
      · rw [if_neg hmem, ← List.concat_eq_append]
        exact ih.concat fun hdup => hmem (List.mem_eraseDups.mp hdup)

theorem filter_key_eq_nil {key : ι → κ} {items : List ι} {other : κ} (h : other ∉ items.map key) :
    items.filter (key · = other) = [] := by
  rw [List.filter_eq_nil_iff]
  intro item hitem hsame
  exact h (of_decide_eq_true hsame ▸ List.mem_map_of_mem hitem)

/-- Items put together by distinct keys are all items with one of these keys. -/
theorem flatMap_filter_perm (key : ι → κ) (items : List ι) {keys : List κ} (hkeys : keys.Nodup) :
    (keys.flatMap fun other => items.filter (key · = other)).Perm (items.filter (key · ∈ keys)) := by
  induction keys with
  | nil => simp
  | cons first rest ih =>
      obtain ⟨hfirst, hrest⟩ := List.nodup_cons.mp hkeys
      rw [List.flatMap_cons]
      refine ((ih hrest).append_left _).trans ?_
      have hsplit := List.filter_append_perm (key · = first) (items.filter (key · ∈ first :: rest))
      refine (List.Perm.of_eq ?_).trans hsplit
      rw [List.filter_filter, List.filter_filter]
      congr 1
      · refine List.filter_congr fun item _ => ?_
        by_cases hsame : key item = first
        · simp [hsame]
        · simp [hsame]
      · refine List.filter_congr fun item _ => ?_
        by_cases hsame : key item = first
        · simp [hsame, hfirst]
        · simp [hsame]

/-- Items put together by their keys are the items again. -/
theorem flatMap_filter_eraseDups_perm (key : ι → κ) (items : List ι) :
    ((items.map key).eraseDups.flatMap fun other => items.filter (key · = other)).Perm items := by
  refine (flatMap_filter_perm key items (nodup_eraseDups _)).trans (List.Perm.of_eq ?_)
  rw [List.filter_eq_self]
  intro item hitem
  exact decide_eq_true (List.mem_eraseDups.mpr (List.mem_map_of_mem hitem))

/-! ### Groups -/

/-- Changing a group among groups that are told by their keys. -/
theorem changeGroup_map (keys : List κ) (hkeys : keys.Nodup) (group : κ → α) (key : κ) (start : α)
    (change : α → α) :
    changeGroup key start change (keys.map fun other => (other, group other)) =
      if key ∈ keys then
        keys.map fun other => (other, if key = other then change (group other) else group other)
      else keys.map (fun other => (other, group other)) ++ [(key, change start)] := by
  induction keys with
  | nil => rfl
  | cons first rest ih =>
      obtain ⟨hfirst, hrest⟩ := List.nodup_cons.mp hkeys
      rw [List.map_cons, changeGroup]
      by_cases hsame : first = key
      · subst hsame
        have hothers : ∀ other ∈ rest, first ≠ other := by
          rintro other hother rfl
          exact hfirst hother
        simp only [if_true, List.mem_cons_self, List.map_cons]
        congr 1
        refine List.map_congr_left fun other hother => ?_
        rw [if_neg (hothers other hother)]
      · rw [if_neg hsame, ih hrest]
        by_cases hmem : key ∈ rest
        · simp [hmem, Ne.symm hsame]
        · simp [hmem, Ne.symm hsame]

/-- The keys of items in the order of first appearance, each with what the items that have it make. -/
def gather (key : ι → κ) (content : List ι → α) (items : List ι) : List (κ × α) :=
  (items.map key).eraseDups.map fun other => (other, content (items.filter (key · = other)))

/-- Filling the groups item by item gathers the items. -/
theorem groupBy_eq_gather (key : ι → κ) (start : α) (add : ι → α → α) (items : List ι) :
    groupBy key start add items =
      gather key (fun own => own.foldl (fun group item => add item group) start) items := by
  unfold gather
  -- From the right: the last item meets the groups of all items before it.
  induction items using List.reverseRecOn with
  | nil => rfl
  | append_singleton items item ih =>
      have hstep : groupBy key start add (items ++ [item]) =
          changeGroup (key item) start (add item) (groupBy key start add items) := by
        rw [groupBy, List.foldl_append]
        rfl
      rw [hstep, ih, changeGroup_map _ (nodup_eraseDups _), List.map_append, List.map_singleton,
        eraseDups_concat]
      by_cases hmem : key item ∈ items.map key
      · rw [if_pos (List.mem_eraseDups.mpr hmem), if_pos hmem]
        refine List.map_congr_left fun other _ => ?_
        by_cases hsame : key item = other
        · simp [List.filter_append, hsame]
        · simp [List.filter_append, hsame]
      · rw [if_neg (fun hdup => hmem (List.mem_eraseDups.mp hdup)), if_neg hmem, List.map_append]
        congr 1
        · refine List.map_congr_left fun other hother => ?_
          have hother : key item ≠ other := by
            rintro rfl
            exact hmem (List.mem_eraseDups.mp hother)
          simp [List.filter_append, hother]
        · simp [List.filter_append, filter_key_eq_nil hmem]

section Gather

variable {key : ι → κ} {content : List ι → α} {items : List ι}

theorem map_fst_gather : (gather key content items).map Prod.fst = (items.map key).eraseDups := by
  rw [gather, List.map_map]
  exact List.map_id _

theorem mem_gather {other : κ} {group : α} (h : (other, group) ∈ gather key content items) :
    (∃ item ∈ items, key item = other) ∧ group = content (items.filter (key · = other)) := by
  obtain ⟨found, hfound, heq⟩ := List.mem_map.mp h
  obtain ⟨rfl, rfl⟩ := Prod.mk.inj heq
  exact ⟨List.mem_map.mp (List.mem_eraseDups.mp hfound), rfl⟩

theorem gather_ne_nil (hitems : items ≠ []) : gather key content items ≠ [] := by
  obtain ⟨item, hitem⟩ := List.exists_mem_of_ne_nil items hitems
  exact List.ne_nil_of_mem (List.mem_map_of_mem (List.mem_eraseDups.mpr (List.mem_map_of_mem hitem)))

/-- Parts of items are the parts of their groups, if a group has the parts of what it is made of. -/
theorem flatMap_gather_perm {β : Type} (parts : α → List β) (part : ι → List β)
    (hparts : ∀ own, (parts (content own)).Perm (own.flatMap part)) :
    ((gather key content items).flatMap fun group => parts group.2).Perm (items.flatMap part) := by
  rw [gather, List.flatMap_map]
  refine (List.Perm.flatMap_left _ fun other _ => hparts _).trans ?_
  rw [← List.flatMap_assoc]
  exact (flatMap_filter_eraseDups_perm key items).flatMap_right part

end Gather

/-! ### First items -/

/-- The first items of all groups come in the order of the items. -/
theorem exists_firsts (key : ι → κ) (items : List ι) :
    ∃ firsts : List ι, firsts.Sublist items ∧ firsts.map key = (items.map key).eraseDups ∧
      ∀ first ∈ firsts, (items.filter (key · = key first)).head? = some first := by
  induction items using List.reverseRecOn with
  | nil => exact ⟨[], .slnil, rfl, by simp⟩
  | append_singleton items item ih =>
      obtain ⟨firsts, hsublist, hkeys, hheads⟩ := ih
      have hold : ∀ first ∈ firsts, ((items ++ [item]).filter (key · = key first)).head? = some first := by
        intro first hfirst
        rw [List.filter_append, List.head?_append, hheads first hfirst]
        rfl
      rw [List.map_append, List.map_singleton, eraseDups_concat]
      by_cases hmem : key item ∈ items.map key
      · rw [if_pos hmem]
        exact ⟨firsts, hsublist.trans (List.sublist_append_left items [item]), hkeys, hold⟩
      · rw [if_neg hmem]
        refine ⟨firsts ++ [item], hsublist.append_right [item], by simp [hkeys], ?_⟩
        intro first hfirst
        rcases List.mem_append.mp hfirst with hfirst | hfirst
        · exact hold first hfirst
        · obtain rfl := List.mem_singleton.mp hfirst
          simp [List.filter_append, filter_key_eq_nil hmem]

end Rail18
