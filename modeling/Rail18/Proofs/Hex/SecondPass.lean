import Rail18.Proofs.Hex.Copies

/-!
# Following copies a second time

Following copies moves no coordinate, so a second pass looks up every reference where the first one did.
What it still finds to follow are the references at which the first pass cut a cycle, and no others: a
hex that inherited refers to nothing any more. A second pass therefore changes nothing exactly if there
was no cycle, and a third one never changes anything.
-/

namespace Rail18.Copies

variable {hexes : List Hex}

/-! ### References after a pass -/

section SameCoords

variable {other : List Hex}

theorem position?_of_coords_eq (hcoords : other.map Hex.coords = hexes.map Hex.coords) (coord : String) :
    (position? other coord).map Fin.val = (position? hexes coord).map Fin.val := by
  have hindex (list : List Hex) : (position? list coord).map Fin.val =
      (list.map Hex.coords).findIdx? (·.contains coord) := by
    rw [List.findIdx?_map, List.findIdx?_eq_map_findFinIdx?_val]
    rfl
  rw [hindex, hindex, hcoords]

/-- Where a hex refers to depends on what it copies and on the coordinates of all hexes. -/
theorem source_of_coords_eq (hcoords : other.map Hex.coords = hexes.map Hex.coords)
    {position : Fin hexes.length} {place : Fin other.length} (hplace : place.val = position.val)
    (hcopy : (other.get place).copy = (hexes.get position).copy) :
    (source other place).map Fin.val = (source hexes position).map Fin.val := by
  have hvalue {list : List Hex} (self : Fin list.length) : (source list self).map Fin.val =
      (((list.get self).copy.bind (position? list)).map Fin.val).filter (· ≠ self.val) := by
    rw [source, Option.filter_map]
    congr 2
    funext target
    simp [Fin.ext_iff]
  rw [hvalue, hvalue, hplace, hcopy]
  cases (hexes.get position).copy with
  | none => rfl
  | some coord => rw [Option.bind_some, Option.bind_some, position?_of_coords_eq hcoords]

end SameCoords

section Resolved

variable {resolved : List Hex}

/-- After a pass a hex still refers to another one exactly where a cycle was cut, and to the same one. -/
theorem source_of_resolved (hresolved : resolveCopies hexes = .ok resolved) {position : Fin hexes.length}
    {place : Fin resolved.length} (hplace : place.val = position.val) :
    (Cut hexes position → (source resolved place).map Fin.val = (source hexes position).map Fin.val) ∧
      (¬ Cut hexes position → source resolved place = none) := by
  have hcoords := coords_resolveCopies hresolved
  obtain ⟨result, hresult, hsettled⟩ := exists_settled hexes
  obtain rfl := Except.ok.inj (hresult.symm.trans hresolved)
  have hget : (List.ofFn result).get place = result position := by
    rw [List.get_ofFn]
    exact congrArg result (Fin.ext hplace)
  -- A hex that is left as declared refers where it did, since no coordinate has moved.
  have hkept (hsame : result position = hexes.get position) :=
    source_of_coords_eq hcoords hplace (congrArg Hex.copy (hget.trans hsame))
  constructor
  · intro hcut
    exact hkept (((hsettled position).eq_declared_iff_cut hcut.1).mpr hcut)
  · intro hcut
    cases hsource : source hexes position with
    | none =>
        have hnone := hkept ((hsettled position).eq_declared hsource)
        rw [hsource] at hnone
        exact Option.map_eq_none_iff.mp hnone
    | some target =>
        obtain ⟨base, merged, -, -, hmerged⟩ := (hsettled position).eq_merged hsource hcut
        apply source_of_copy_none
        rw [hget, hmerged]

theorem length_of_resolved (hresolved : resolveCopies hexes = .ok resolved) :
    resolved.length = hexes.length := by
  have hlength := congrArg List.length (coords_resolveCopies hresolved)
  rwa [List.length_map, List.length_map] at hlength

/-- A hex that still refers to another one after a pass is one at which a cycle was cut. -/
theorem cut_of_source_resolved (hresolved : resolveCopies hexes = .ok resolved)
    {place target : Fin resolved.length} (hsource : source resolved place = some target) :
    Cut hexes (place.cast (length_of_resolved hresolved)) := by
  by_contra hcut
  rw [(source_of_resolved hresolved rfl).2 hcut] at hsource
  cases hsource

/-- A second pass changes nothing exactly if the first one cut no cycle. -/
theorem resolveCopies_resolved_iff (hresolved : resolveCopies hexes = .ok resolved) :
    resolveCopies resolved = .ok resolved ↔ ∀ position, ¬ Cut hexes position := by
  rw [resolveCopies_eq_self_iff]
  constructor
  · intro hnone position hcut
    obtain ⟨target, htarget⟩ := hcut.1.exists_source
    have hplace : (position.cast (length_of_resolved hresolved).symm).val = position.val := rfl
    have hkept := (source_of_resolved hresolved hplace).1 hcut
    rw [hnone, htarget] at hkept
    cases hkept
  · intro hnot place
    exact (source_of_resolved hresolved rfl).2 (hnot (place.cast (length_of_resolved hresolved)))

/-- A pass leaves no cycle behind: where one was cut, the hex refers to one that refers to nothing. -/
theorem not_onCycle_resolved (hresolved : resolveCopies hexes = .ok resolved)
    (place : Fin resolved.length) : ¬ OnCycle resolved place := by
  intro hcycle
  have hlength := length_of_resolved hresolved
  obtain ⟨target, htarget⟩ := hcycle.exists_source
  obtain ⟨further, hfurther⟩ := hcycle.next.exists_source
  have hcut := cut_of_source_resolved hresolved htarget
  have hcutNext := cut_of_source_resolved hresolved hfurther
  obtain ⟨old, hold⟩ := hcut.1.exists_source
  have hsame := (source_of_resolved hresolved rfl).1 hcut
  rw [htarget, hold, Option.map_some, Option.map_some] at hsame
  have hnext : (next resolved place).cast hlength = next hexes (place.cast hlength) := by
    rw [next_of_source htarget, next_of_source hold]
    exact Fin.ext (Option.some.inj hsame)
  exact hcut.not_cut_next (hnext ▸ hcutNext)

end Resolved

/-- After two passes nothing changes any more. -/
theorem resolveCopies_resolved_twice {resolved again : List Hex}
    (hresolved : resolveCopies hexes = .ok resolved) (hagain : resolveCopies resolved = .ok again) :
    resolveCopies again = .ok again :=
  (resolveCopies_resolved_iff hagain).mpr fun place hcut => not_onCycle_resolved hresolved place hcut.1

/-- Following copies succeeds, and following them again in what came out changes nothing exactly if
references lead round no cycle, that is from no hex to another one and back. The reference of a hex is
the one to the first hex that lists its copy coordinate. If it is that hex itself, it refers to nothing,
even where another hex lists the coordinate too: neither pass looks for a second one. -/
theorem resolveCopies_idempotent_iff (hexes : List Hex) :
    ∃ resolved, resolveCopies hexes = .ok resolved ∧
      (resolveCopies resolved = .ok resolved ↔ ∀ position, ¬ OnCycle hexes position) := by
  obtain ⟨resolved, hresolved, -⟩ := exists_resolveCopies hexes
  refine ⟨resolved, hresolved, ?_⟩
  rw [resolveCopies_resolved_iff hresolved]
  constructor
  · intro hnot position hcycle
    obtain ⟨cut, -, hcut⟩ := hcycle.exists_cut
    exact hnot cut hcut
  · intro hnot position hcut
    exact hnot position hcut.1

end Rail18.Copies
