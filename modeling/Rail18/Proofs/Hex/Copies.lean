import Rail18.Proofs.Hex.Inheritance
import Rail18.Proofs.Hex.References

/-!
# What following copies finds

The invariant that ties the memo, the positions being visited and the place where a cycle is cut: the
visited positions are the walk from the start to the position at hand, and the memo holds exactly what
is reached from earlier starts. A reference back into the walk then closes a cycle at the position of
it that is met first, and a reference that is followed never does.
-/

namespace Rail18.Copies

variable {hexes : List Hex}

/-! ### One step of the graph -/

theorem source_of_copy_none {position : Fin hexes.length} (h : (hexes.get position).copy = none) :
    source hexes position = none := by
  rw [source, h]
  rfl

theorem source_of_position?_none {position : Fin hexes.length} {coord : String}
    (hcopy : (hexes.get position).copy = some coord) (h : position? hexes coord = none) :
    source hexes position = none := by
  rw [source, hcopy, Option.bind_some, h]
  rfl

theorem source_of_position?_self {position : Fin hexes.length} {coord : String}
    (hcopy : (hexes.get position).copy = some coord) (h : position? hexes coord = some position) :
    source hexes position = none := by
  rw [source, hcopy, Option.bind_some, h]
  simp

theorem source_of_position?_other {position target : Fin hexes.length} {coord : String}
    (hcopy : (hexes.get position).copy = some coord) (h : position? hexes coord = some target)
    (hne : target ≠ position) : source hexes position = some target := by
  rw [source, hcopy, Option.bind_some, h]
  simp [hne]

/-! ### The walk -/

/-- The visited positions are those of the walk from a start before it arrives at a position, and no
position of the walk repeats. -/
structure Trail (hexes : List Hex) (start : Fin hexes.length) (steps : Nat)
    (visiting : List (Fin hexes.length)) (position : Fin hexes.length) : Prop where
  arrives : (next hexes)^[steps] start = position
  mem_visiting : ∀ other, other ∈ visiting ↔ ∃ count < steps, (next hexes)^[count] start = other
  distinct : ∀ first last, first < last → last ≤ steps →
    (next hexes)^[first] start ≠ (next hexes)^[last] start

namespace Trail

variable {start position target : Fin hexes.length} {steps : Nat} {visiting : List (Fin hexes.length)}

theorem initial (start : Fin hexes.length) : Trail hexes start 0 [] start where
  arrives := rfl
  mem_visiting other := by simp
  distinct first last hlt hle := by omega

theorem not_mem (h : Trail hexes start steps visiting position) : position ∉ visiting := by
  intro hmem
  obtain ⟨count, hcount, hsame⟩ := (h.mem_visiting position).mp hmem
  exact h.distinct count steps hcount le_rfl (hsame.trans h.arrives.symm)

/-- The walk goes on to a position that has not been visited. -/
theorem step (h : Trail hexes start steps visiting position) (hnext : next hexes position = target)
    (hposition : target ≠ position) (hvisiting : target ∉ visiting) :
    Trail hexes start (steps + 1) (visiting.insert position) target where
  arrives := by rw [Function.iterate_succ_apply', h.arrives, hnext]
  mem_visiting other := by
    rw [List.mem_insert_iff, h.mem_visiting other]
    constructor
    · rintro (rfl | ⟨count, hcount, hother⟩)
      · exact ⟨steps, steps.lt_succ_self, h.arrives⟩
      · exact ⟨count, by omega, hother⟩
    · rintro ⟨count, hcount, hother⟩
      rcases Nat.lt_succ_iff_lt_or_eq.mp hcount with hlt | rfl
      · exact .inr ⟨count, hlt, hother⟩
      · exact .inl (hother.symm.trans h.arrives)
  distinct first last hlt hle := by
    rcases Nat.le_succ_iff.mp hle with hle | rfl
    · exact h.distinct first last hlt hle
    · rw [Function.iterate_succ_apply' _ steps, h.arrives, hnext]
      intro hsame
      rcases Nat.lt_succ_iff_lt_or_eq.mp hlt with hlt | rfl
      · exact hvisiting ((h.mem_visiting target).mpr ⟨first, hlt, hsame⟩)
      · exact hposition (hsame.symm.trans h.arrives)

/-- From a position of the walk that the position at hand refers to, references lead only to
positions of the walk that come no earlier. -/
theorem exists_of_reaches (h : Trail hexes start steps visiting position) {count : Nat}
    (hcount : count < steps) (hnext : next hexes position = (next hexes)^[count] start)
    {other : Fin hexes.length} (hother : Reaches hexes ((next hexes)^[count] start) other) :
    ∃ later, count ≤ later ∧ later ≤ steps ∧ (next hexes)^[later] start = other := by
  obtain ⟨further, rfl⟩ := hother
  induction further with
  | zero => exact ⟨count, le_rfl, hcount.le, rfl⟩
  | succ further ih =>
      obtain ⟨later, hle, hsteps, hlater⟩ := ih
      rw [Function.iterate_succ_apply', ← hlater]
      rcases Nat.lt_or_eq_of_le hsteps with hlt | rfl
      · exact ⟨later + 1, by omega, hlt, Function.iterate_succ_apply' (next hexes) later start⟩
      · exact ⟨count, le_rfl, hcount.le, by rw [h.arrives, hnext]⟩

/-- From a position that refers back into the walk, references lead to nothing but the walk. -/
theorem eq_or_mem_of_reaches (h : Trail hexes start steps visiting position)
    (hnext : next hexes position = target) (hvisiting : target ∈ visiting) {other : Fin hexes.length}
    (hother : Reaches hexes position other) : other = position ∨ other ∈ visiting := by
  rcases hother.eq_or_next with rfl | hother
  · exact .inl rfl
  · obtain ⟨count, hcount, rfl⟩ := (h.mem_visiting target).mp hvisiting
    obtain ⟨later, -, hsteps, hlater⟩ := h.exists_of_reaches hcount hnext (hnext ▸ hother)
    rcases Nat.lt_or_eq_of_le hsteps with hlt | rfl
    · exact .inr ((h.mem_visiting other).mpr ⟨later, hlt, hlater⟩)
    · exact .inl (hlater.symm.trans h.arrives)

/-- A reference back into the walk cuts a cycle, if no earlier start came by. -/
theorem cut (h : Trail hexes start steps visiting position) (hnext : next hexes position = target)
    (hvisiting : target ∈ visiting)
    (hnew : ∀ earlier < start, ¬ Reaches hexes earlier position) : Cut hexes position := by
  obtain ⟨count, hcount, rfl⟩ := (h.mem_visiting target).mp hvisiting
  -- The rest of the walk and the reference back to where it begins are the cycle.
  have hback : Reaches hexes (next hexes position) position := by
    refine ⟨steps - count, ?_⟩
    rw [hnext, ← Function.iterate_add_apply, Nat.sub_add_cancel hcount.le, h.arrives]
  have hmoves : next hexes position ≠ position := by
    rw [hnext, ← h.arrives]
    exact h.distinct count steps hcount le_rfl
  have hcycle : OnCycle hexes position := ⟨hmoves, hback⟩
  refine ⟨hcycle, start, count, hnext.symm, ?_, ?_⟩
  · intro fewer hfewer hreaches
    rw [hnext] at hreaches
    obtain ⟨later, hle, hsteps, hsame⟩ := h.exists_of_reaches hcount hnext hreaches
    exact h.distinct fewer later (by omega) hsteps hsame.symm
  -- An earlier start that came by the cycle would have come by the position too.
  · intro earlier hearlier further hreaches
    have hreturn := (hcycle.of_reaches (.iterate 1 position)).reaches_symm hreaches
    exact hnew earlier hearlier ((Reaches.iterate further earlier).trans (hreturn.trans hback))

/-- A reference out of the walk cuts no cycle, if no earlier start came by. -/
theorem not_cut (h : Trail hexes start steps visiting position) (hnext : next hexes position = target)
    (hposition : target ≠ position) (hvisiting : target ∉ visiting)
    (hnew : ∀ earlier < start, ¬ Reaches hexes earlier position) : ¬ Cut hexes position := by
  rintro ⟨⟨-, hback⟩, first, count, harrives, hfewer, hearlier⟩
  rcases lt_trichotomy first start with hlt | rfl | hlt
  · exact hnew first hlt ((Reaches.iterate count first).trans (harrives ▸ hback))
  · rcases lt_trichotomy count steps with hlt | rfl | hlt
    · exact hvisiting ((h.mem_visiting target).mpr ⟨count, hlt, harrives.trans hnext⟩)
    · exact hposition (hnext.symm.trans (harrives.symm.trans h.arrives))
    · exact hfewer steps hlt (h.arrives.symm ▸ hback)
  · exact hearlier start hlt steps (h.arrives.symm ▸ hback)

end Trail

/-! ### The memo -/

/-- What a position is resolved to: the hex as declared where nothing is copied or a cycle is cut, and
the hex over what its reference was resolved to everywhere else. -/
inductive Settled (hexes : List Hex) (found : Fin hexes.length → Option Hex)
    (position : Fin hexes.length) : Hex → Prop where
  | declared (hsource : source hexes position = none) : Settled hexes found position (hexes.get position)
  | cut (hcut : Cut hexes position) : Settled hexes found position (hexes.get position)
  | merged {target : Fin hexes.length} {base merged : Hex}
      (hsource : source hexes position = some target) (hcut : ¬ Cut hexes position)
      (hbase : found target = some base) (hmerge : base.merge (hexes.get position) = .ok merged) :
      Settled hexes found position { merged with copy := none }

/-- The memo holds the known positions and no others, and what it holds is settled. -/
structure Memo (hexes : List Hex) (found : Vector (Option Hex) hexes.length)
    (known : Fin hexes.length → Prop) : Prop where
  known_iff : ∀ position, (∃ hex, found.get position = some hex) ↔ known position
  settled : ∀ position hex, found.get position = some hex → Settled hexes found.get position hex

theorem Settled.mono {found later : Fin hexes.length → Option Hex} {position : Fin hexes.length}
    {hex : Hex} (h : Settled hexes found position hex)
    (hkept : ∀ other hex, found other = some hex → later other = some hex) :
    Settled hexes later position hex := by
  cases h with
  | declared hsource => exact .declared hsource
  | cut hcut => exact .cut hcut
  | merged hsource hcut hbase hmerge => exact .merged hsource hcut (hkept _ _ hbase) hmerge

theorem get_keep {n : Nat} (state : State n) (position other : Fin n) (hex : Hex) :
    (state.keep position hex).found.get other =
      if other = position then some hex else state.found.get other := by
  change (state.found.set position (some hex))[other] = _
  by_cases hsame : other = position
  · subst hsame
    simp
  · have hne : position.val ≠ other.val := fun h => hsame (Fin.ext h.symm)
    rw [if_neg hsame]
    exact Vector.getElem_set_ne position.isLt other.isLt hne

theorem kept_keep {n : Nat} (state : State n) {position : Fin n}
    (hfresh : state.found.get position = none) (hex : Hex) (other : Fin n) (old : Hex)
    (hold : state.found.get other = some old) :
    (state.keep position hex).found.get other = some old := by
  have hne : other ≠ position := by
    rintro rfl
    rw [hfresh] at hold
    cases hold
  rw [get_keep, if_neg hne, hold]

namespace Memo

variable {found : Vector (Option Hex) hexes.length} {known other : Fin hexes.length → Prop}

theorem congr (h : Memo hexes found known) (hsame : ∀ position, known position ↔ other position) :
    Memo hexes found other where
  known_iff position := (h.known_iff position).trans (hsame position)
  settled := h.settled

theorem eq_none (h : Memo hexes found known) {position : Fin hexes.length} (hnew : ¬ known position) :
    found.get position = none := by
  by_contra hsome
  exact hnew ((h.known_iff position).mp (Option.ne_none_iff_exists'.mp hsome))

theorem not_known (h : Memo hexes found known) {position : Fin hexes.length}
    (hfresh : found.get position = none) : ¬ known position := by
  intro hknown
  obtain ⟨hex, hfound⟩ := (h.known_iff position).mpr hknown
  rw [hfresh] at hfound
  cases hfound

/-- Keeping what a new position is resolved to makes it known. -/
theorem keep (state : State hexes.length) (h : Memo hexes state.found known)
    {position : Fin hexes.length} {hex : Hex} (hfresh : state.found.get position = none)
    (hsettled : Settled hexes state.found.get position hex) :
    Memo hexes (state.keep position hex).found fun other => known other ∨ other = position where
  known_iff other := by
    rw [get_keep, ← h.known_iff other]
    by_cases hsame : other = position
    · simp [hsame]
    · simp [hsame]
  settled other old hold := by
    rw [get_keep] at hold
    have hkept := kept_keep state hfresh hex
    split at hold
    · next hsame =>
        obtain rfl := hsame
        obtain rfl := Option.some.inj hold
        exact hsettled.mono hkept
    · exact (h.settled other old hold).mono hkept

end Memo

/-! ### Calls -/

/-- References lead to a position from one of the first starts. -/
def ReachedBefore (hexes : List Hex) (start : Nat) (position : Fin hexes.length) : Prop :=
  ∃ earlier : Fin hexes.length, earlier.val < start ∧ Reaches hexes earlier position

/-- What a call for a position does to the state it was given: it visits what it visited before, it
holds the hex that was returned, it has forgotten nothing, and it has added to the memo what
references lead to, as far as that is not still being visited. -/
structure Followed (start : Nat) (position : Fin hexes.length) (state after : State hexes.length)
    (hex : Hex) : Prop where
  visiting_eq : after.visiting = state.visiting
  found_eq : after.found.get position = some hex
  kept : ∀ other old, state.found.get other = some old → after.found.get other = some old
  memo : Memo hexes after.found fun other =>
    ReachedBefore hexes start other ∨ Reaches hexes position other ∧ other ∉ state.visiting

/-- A position that stays as declared is entered as it is. -/
theorem followed_declared {start : Nat} {position : Fin hexes.length} {state after : State hexes.length}
    (hfound : after.found = state.found) (hvisiting : after.visiting = state.visiting)
    (hmemo : Memo hexes state.found (ReachedBefore hexes start))
    (hfresh : state.found.get position = none)
    (hsettled : Settled hexes state.found.get position (hexes.get position))
    (hposition : position ∉ state.visiting)
    (hreaches : ∀ other, Reaches hexes position other → other = position ∨ other ∈ state.visiting) :
    Followed start position state (after.keep position (hexes.get position)) (hexes.get position) := by
  rw [← hfound] at hmemo hfresh hsettled
  refine ⟨hvisiting, by rw [get_keep, if_pos rfl], ?_, ?_⟩
  · intro other old hold
    exact kept_keep after hfresh _ other old (hfound ▸ hold)
  · refine (Memo.keep after hmemo hfresh hsettled).congr fun other => or_congr_right ⟨?_, ?_⟩
    · rintro rfl
      exact ⟨.refl other, hposition⟩
    · rintro ⟨hother, hnot⟩
      exact (hreaches other hother).resolve_right hnot

theorem followed_of_source_none {start : Nat} {position : Fin hexes.length}
    {state after : State hexes.length} (hsource : source hexes position = none)
    (hfound : after.found = state.found) (hvisiting : after.visiting = state.visiting)
    (hmemo : Memo hexes state.found (ReachedBefore hexes start))
    (hfresh : state.found.get position = none) (hposition : position ∉ state.visiting) :
    Followed start position state (after.keep position (hexes.get position)) (hexes.get position) := by
  have hfixed := next_of_source_eq_none hsource
  exact followed_declared hfound hvisiting hmemo hfresh (.declared hsource) hposition
    fun other hother => .inl (hother.eq_of_fixed hfixed).symm

theorem ReachedBefore.trans {start : Nat} {position other : Fin hexes.length}
    (h : ReachedBefore hexes start position) (hother : Reaches hexes position other) :
    ReachedBefore hexes start other := by
  obtain ⟨earlier, hearlier, hreaches⟩ := h
  exact ⟨earlier, hearlier, hreaches.trans hother⟩

theorem settle_eq_ok (own base : Hex) :
    ∃ merged, base.merge own = .ok merged ∧ settle own base = .ok { merged with copy := none } := by
  refine ⟨own.inherit base, Hex.merge_eq_inherit base own, ?_⟩
  rw [settle, Hex.merge_eq_inherit]
  rfl

/-- After the call for the hex that is referred to, what the position becomes is entered. -/
theorem followed_merged {start position target : Fin hexes.length} {state after : State hexes.length}
    {base merged : Hex} (hsource : source hexes position = some target) (hcut : ¬ Cut hexes position)
    (hposition : position ∉ state.visiting) (hnew : ¬ ReachedBefore hexes start position)
    (hmerge : base.merge (hexes.get position) = .ok merged)
    (h : Followed start target (state.enter position) after base) :
    Followed start position state
      ((after.leave position).keep position { merged with copy := none })
      { merged with copy := none } := by
  have henter : (state.enter position).visiting = position :: state.visiting :=
    List.insert_of_not_mem hposition
  have hmemo := h.memo
  rw [henter] at hmemo
  have hfresh : after.found.get position = none := by
    apply hmemo.eq_none
    rintro (hbefore | ⟨-, hnot⟩)
    · exact hnew hbefore
    · exact hnot List.mem_cons_self
  have hkept := kept_keep (after.leave position) hfresh { merged with copy := none }
  refine ⟨?_, by rw [get_keep, if_pos rfl], fun other old hold => ?_, ?_⟩
  · change after.visiting.erase position = state.visiting
    rw [h.visiting_eq, henter, List.erase_cons_head]
  · exact hkept other old (h.kept other old hold)
  · refine (Memo.keep (after.leave position) hmemo hfresh
      (.merged hsource hcut h.found_eq hmerge)).congr fun other => ?_
    rw [or_assoc]
    refine or_congr_right ⟨?_, ?_⟩
    · rintro (⟨hother, hnot⟩ | rfl)
      · exact ⟨Reaches.head (next_of_source hsource ▸ hother), fun h => hnot (List.mem_cons_of_mem _ h)⟩
      · exact ⟨.refl other, hposition⟩
    · rintro ⟨hother, hnot⟩
      rcases hother.eq_or_next with rfl | hnext
      · exact .inr rfl
      · by_cases hsame : other = position
        · exact .inr hsame
        · exact .inl ⟨next_of_source hsource ▸ hnext, by simp [hsame, hnot]⟩

/-- A call for a position that a walk has arrived at succeeds. -/
theorem follow_followed {start position : Fin hexes.length} {steps : Nat} {state : State hexes.length}
    (htrail : Trail hexes start steps state.visiting position)
    (hmemo : Memo hexes state.found (ReachedBefore hexes start)) :
    ∃ hex after, follow hexes position state = (.ok hex, after) ∧
      Followed start position state after hex := by
  -- Along the calls the walk grows by one step each; the memo at entry stays that of the earlier starts.
  induction position, state using follow.induct_unfolding hexes generalizing steps with
  | case1 position state hex hfound =>
      have hbefore := (hmemo.known_iff position).mp ⟨hex, hfound⟩
      refine ⟨hex, state, rfl, rfl, hfound, fun _ _ hold => hold, hmemo.congr fun other => ?_⟩
      constructor
      · exact .inl
      · rintro (hother | ⟨hother, -⟩)
        · exact hother
        · exact hbefore.trans hother
  | case2 position state hfresh hcopy =>
      have hsource := source_of_copy_none hcopy
      exact ⟨_, _, rfl, followed_of_source_none hsource rfl rfl hmemo hfresh htrail.not_mem⟩
  | case3 position state hfresh coord hcopy hposition =>
      have hsource := source_of_position?_none hcopy hposition
      exact ⟨_, _, rfl, followed_of_source_none hsource rfl rfl hmemo hfresh htrail.not_mem⟩
  | case4 position state hfresh coord hcopy target hposition hvisited =>
      by_cases hself : target = position
      · subst hself
        have hsource := source_of_position?_self hcopy hposition
        exact ⟨_, _, rfl, followed_of_source_none hsource rfl rfl hmemo hfresh htrail.not_mem⟩
      · have hnext := next_of_source (source_of_position?_other hcopy hposition hself)
        have hvisiting := hvisited.resolve_left hself
        have hcut := htrail.cut hnext hvisiting fun earlier hearlier hreaches =>
          hmemo.not_known hfresh ⟨earlier, hearlier, hreaches⟩
        exact ⟨_, _, rfl, followed_declared rfl rfl hmemo hfresh (.cut hcut) htrail.not_mem
          fun other hother => htrail.eq_or_mem_of_reaches hnext hvisiting hother⟩
  | case5 position state hfresh coord hcopy target hposition hvisited base after hfollow resolved
      hresolved ih =>
      obtain ⟨hself, hvisiting⟩ := not_or.mp hvisited
      have hsource := source_of_position?_other hcopy hposition hself
      have hnext := next_of_source hsource
      have hnew := hmemo.not_known hfresh
      have hcut := htrail.not_cut hnext hself hvisiting fun earlier hearlier hreaches =>
        hnew ⟨earlier, hearlier, hreaches⟩
      obtain ⟨found, later, hcall, hfollowed⟩ := ih (htrail.step hnext hself hvisiting) hmemo
      obtain ⟨rfl, rfl⟩ := Prod.mk.inj (hfollow.symm.trans hcall)
      obtain ⟨merged, hmerge, hsettle⟩ := settle_eq_ok (hexes.get position) found
      obtain rfl := Except.ok.inj (hresolved.symm.trans hsettle)
      exact ⟨_, _, rfl, followed_merged hsource hcut htrail.not_mem hnew hmerge hfollowed⟩
  | case6 position state hfresh coord hcopy target hposition hvisited base after hfollow error herror
      ih =>
      obtain ⟨hself, hvisiting⟩ := not_or.mp hvisited
      have hnext := next_of_source (source_of_position?_other hcopy hposition hself)
      obtain ⟨found, later, hcall, -⟩ := ih (htrail.step hnext hself hvisiting) hmemo
      obtain ⟨rfl, rfl⟩ := Prod.mk.inj (hfollow.symm.trans hcall)
      obtain ⟨merged, -, hsettle⟩ := settle_eq_ok (hexes.get position) found
      cases herror.symm.trans hsettle

/-! ### The whole list -/

theorem reachedBefore_succ (position other : Fin hexes.length) :
    ReachedBefore hexes (position + 1) other ↔
      ReachedBefore hexes position other ∨ Reaches hexes position other := by
  constructor
  · rintro ⟨earlier, hearlier, hreaches⟩
    rcases Nat.lt_succ_iff_lt_or_eq.mp hearlier with hlt | hsame
    · exact .inl ⟨earlier, hlt, hreaches⟩
    · exact .inr (Fin.ext hsame ▸ hreaches)
  · rintro (⟨earlier, hearlier, hreaches⟩ | hreaches)
    · exact ⟨earlier, by omega, hreaches⟩
    · exact ⟨position, by omega, hreaches⟩

/-- Calls for the positions from a start on, one after the other, all succeed. -/
theorem followAll_eq_ok (rest : List (Fin hexes.length)) (start : Nat) (state : State hexes.length)
    (hrest : rest.map Fin.val = List.range' start rest.length) (hvisiting : state.visiting = [])
    (hmemo : Memo hexes state.found (ReachedBefore hexes start)) :
    ∃ resolved after, followAll hexes rest state = (.ok resolved, after) ∧
      Memo hexes after.found (ReachedBefore hexes (start + rest.length)) ∧
      (∀ other old, state.found.get other = some old → after.found.get other = some old) ∧
      rest.map after.found.get = resolved.map some := by
  induction rest generalizing start state with
  | nil => exact ⟨[], state, rfl, hmemo, fun _ _ hold => hold, rfl⟩
  | cons position rest ih =>
      rw [List.map_cons, List.length_cons, List.range'_succ, List.cons.injEq] at hrest
      obtain ⟨rfl, hrest⟩ := hrest
      have htrail : Trail hexes position 0 state.visiting position := hvisiting ▸ .initial position
      obtain ⟨hex, between, hcall, hfollowed⟩ := follow_followed htrail hmemo
      have hknown : Memo hexes between.found (ReachedBefore hexes (position + 1)) := by
        refine hfollowed.memo.congr fun other => ?_
        rw [reachedBefore_succ, hvisiting]
        simp
      obtain ⟨resolved, after, hcalls, hmemo, hkept, hfound⟩ :=
        ih (position + 1) between hrest (hfollowed.visiting_eq.trans hvisiting) hknown
      refine ⟨hex :: resolved, after, ?_, ?_, ?_, ?_⟩
      · rw [followAll, hcall]
        simp only [hcalls]
        rfl
      · rwa [List.length_cons, Nat.add_comm rest.length, ← Nat.add_assoc]
      · intro other old hold
        exact hkept other old (hfollowed.kept other old hold)
      · rw [List.map_cons, List.map_cons, hfound, hkept position hex hfollowed.found_eq]

/-- Following all copies succeeds, and what each position becomes is settled by what its reference
becomes. -/
theorem exists_settled (hexes : List Hex) :
    ∃ result : Fin hexes.length → Hex, resolveCopies hexes = .ok (List.ofFn result) ∧
      ∀ position, Settled hexes (some ∘ result) position (result position) := by
  have hempty (position : Fin hexes.length) : (State.found {}).get position = (none : Option Hex) :=
    Vector.getElem_replicate position.isLt
  have hstart : Memo hexes (State.found {}) (ReachedBefore hexes 0) := by
    refine ⟨fun position => ?_, fun position hex hfound => ?_⟩
    · simp [hempty, ReachedBefore]
    · cases (hempty position).symm.trans hfound
  have hrange : (List.finRange hexes.length).map Fin.val =
      List.range' 0 (List.finRange hexes.length).length := by
    rw [List.map_coe_finRange_eq_range, List.length_finRange, List.range_eq_range']
  obtain ⟨resolved, after, hcalls, hmemo, -, hfound⟩ :=
    followAll_eq_ok _ 0 {} hrange rfl hstart
  rw [List.length_finRange, Nat.zero_add] at hmemo
  have hall (position : Fin hexes.length) : ∃ hex, after.found.get position = some hex :=
    (hmemo.known_iff position).mpr ⟨position, position.isLt, .refl position⟩
  choose result hresult using hall
  refine ⟨result, ?_, fun position => ?_⟩
  · have hresolved : resolved = List.ofFn result := by
      apply List.map_injective_iff.mpr (Option.some_injective Hex)
      rw [← hfound, List.ofFn_eq_map, List.map_map]
      exact List.map_congr_left fun position _ => hresult position
    rw [resolveCopies, run, hcalls, hresolved]
  · exact (hmemo.settled position _ (hresult position)).mono fun other hex hother => by
      rw [← hother, hresult other, Function.comp_apply]

theorem copy_ne_none_of_source {position target : Fin hexes.length}
    (h : source hexes position = some target) : (hexes.get position).copy ≠ none := by
  intro hcopy
  rw [source_of_copy_none hcopy] at h
  cases h

namespace Settled

variable {found : Fin hexes.length → Option Hex} {position target : Fin hexes.length} {hex : Hex}

theorem eq_declared (h : Settled hexes found position hex) (hsource : source hexes position = none) :
    hex = hexes.get position := by
  cases h with
  | declared => rfl
  | cut => rfl
  | merged hsome => cases hsource.symm.trans hsome

theorem eq_merged (h : Settled hexes found position hex) (hsource : source hexes position = some target)
    (hcut : ¬ Cut hexes position) :
    ∃ base merged, found target = some base ∧ base.merge (hexes.get position) = .ok merged ∧
      hex = { merged with copy := none } := by
  cases h with
  | declared hnone => cases hnone.symm.trans hsource
  | cut h => exact absurd h hcut
  | merged hsome _ hbase hmerge =>
      obtain rfl := Option.some.inj (hsome.symm.trans hsource)
      exact ⟨_, _, hbase, hmerge, rfl⟩

/-- On a cycle a position stays as declared only where the cycle is cut. -/
theorem eq_declared_iff_cut (h : Settled hexes found position hex) (hcycle : OnCycle hexes position) :
    hex = hexes.get position ↔ Cut hexes position := by
  cases h with
  | declared hnone => exact absurd (next_of_source_eq_none hnone) hcycle.1
  | cut hcut => simp [hcut]
  | merged hsome hcut hbase hmerge =>
      refine ⟨fun hsame => ?_, fun h => absurd h hcut⟩
      exact absurd (congrArg Hex.copy hsame).symm (copy_ne_none_of_source hsome)

/-- The coordinates are never those of a hex that is copied. -/
theorem coords_eq (h : Settled hexes found position hex) : hex.coords = (hexes.get position).coords := by
  cases h with
  | declared => rfl
  | cut => rfl
  | @merged target base merged _ _ _ hmerge =>
      rw [Hex.merge_eq_inherit] at hmerge
      obtain rfl := Except.ok.inj hmerge
      rfl

/-- A hex that is marked with a variation keeps its mark. -/
theorem variation_eq (h : Settled hexes found position hex) {variation : UInt64}
    (hmarked : (hexes.get position).variation = some variation) : hex.variation = some variation := by
  cases h with
  | declared => exact hmarked
  | cut => exact hmarked
  | @merged target base merged _ _ _ hmerge =>
      rw [Hex.merge_eq_inherit] at hmerge
      obtain rfl := Except.ok.inj hmerge
      change (hexes.get position).variation.or base.variation = some variation
      rw [hmarked, Option.some_or]

end Settled

/-- What settling a hex leaves alone is left alone by following all copies. -/
theorem resolveCopies_map {α : Type} (feature : Hex → α)
    (hkept : ∀ found position hex, Settled hexes found position hex →
      feature hex = feature (hexes.get position)) :
    ∃ resolved, resolveCopies hexes = .ok resolved ∧ resolved.map feature = hexes.map feature := by
  obtain ⟨result, hresult, hsettled⟩ := exists_settled hexes
  refine ⟨_, hresult, ?_⟩
  apply List.ext_getElem
  · simp
  · intro index hindex hbound
    rw [List.length_map] at hbound
    simpa using hkept _ _ _ (hsettled ⟨index, hbound⟩)

theorem exists_resolveCopies (hexes : List Hex) :
    ∃ resolved, resolveCopies hexes = .ok resolved ∧
      resolved.map Hex.coords = hexes.map Hex.coords :=
  resolveCopies_map Hex.coords fun _ _ _ h => h.coords_eq

theorem coords_resolveCopies {resolved : List Hex} (h : resolveCopies hexes = .ok resolved) :
    resolved.map Hex.coords = hexes.map Hex.coords := by
  obtain ⟨found, hfound, hcoords⟩ := exists_resolveCopies hexes
  obtain rfl := Except.ok.inj (hfound.symm.trans h)
  exact hcoords

/-- Following copies changes nothing exactly if no hex refers to another one. -/
theorem resolveCopies_eq_self_iff :
    resolveCopies hexes = .ok hexes ↔ ∀ position, source hexes position = none := by
  obtain ⟨result, hresult, hsettled⟩ := exists_settled hexes
  constructor
  · intro hself
    have hget : result = hexes.get := by
      apply List.ofFn_injective
      rw [List.ofFn_get]
      exact Except.ok.inj (hresult.symm.trans hself)
    -- A reference that was followed is gone, so every one that is left cuts a cycle.
    have hcut : ∀ position target, source hexes position = some target → Cut hexes position := by
      intro position target hsource
      by_contra hnot
      obtain ⟨base, merged, -, -, hmerged⟩ := (hsettled position).eq_merged hsource hnot
      rw [hget] at hmerged
      exact copy_ne_none_of_source hsource (congrArg Hex.copy hmerged)
    intro position
    by_contra hsome
    obtain ⟨target, hsource⟩ := Option.ne_none_iff_exists'.mp hsome
    have hhere := hcut position target hsource
    obtain ⟨further, hfurther⟩ := hhere.1.next.exists_source
    exact hhere.not_cut_next (hcut _ further hfurther)
  · intro hnone
    have hget : result = hexes.get := funext fun position =>
      (hsettled position).eq_declared (hnone position)
    rw [hresult, hget, List.ofFn_get]

/-- Hexes that copy nothing stay as declared. -/
theorem resolveCopies_eq_self (hplain : ∀ hex ∈ hexes, hex.copy = none) :
    resolveCopies hexes = .ok hexes :=
  resolveCopies_eq_self_iff.mpr fun position =>
    source_of_copy_none (hplain _ (List.get_mem hexes position))

/-- Following all copies succeeds and keeps the length of the list. A hex that refers to no other
stays as declared. On every cycle exactly one hex stays as declared, the one before the hex that is
met first when references are followed from the positions 0, 1, 2, ... in this order. Every other hex
becomes what it declares over what the hex it refers to became. -/
theorem resolveCopies_correct (hexes : List Hex) :
    ∃ result : Fin hexes.length → Hex, resolveCopies hexes = .ok (List.ofFn result) ∧
      (∀ position, source hexes position = none → result position = hexes.get position) ∧
      (∀ position, OnCycle hexes position →
        ∃ cut, Reaches hexes position cut ∧ Cut hexes cut ∧ (result cut).copy ≠ none ∧
          ∀ other, Reaches hexes position other → (result other = hexes.get other ↔ other = cut)) ∧
      ∀ position target, source hexes position = some target → ¬ Cut hexes position →
        ∃ merged, (result target).merge (hexes.get position) = .ok merged ∧
          result position = { merged with copy := none } := by
  obtain ⟨result, hresult, hsettled⟩ := exists_settled hexes
  refine ⟨result, hresult, fun position => (hsettled position).eq_declared, ?_, ?_⟩
  · intro position hcycle
    obtain ⟨cut, hreaches, hcut⟩ := hcycle.exists_cut
    have hdeclared : result cut = hexes.get cut := ((hsettled cut).eq_declared_iff_cut hcut.1).mpr hcut
    refine ⟨cut, hreaches, hcut, ?_, fun other hother => ?_⟩
    · obtain ⟨target, hsource⟩ := hcut.1.exists_source
      rw [hdeclared]
      exact copy_ne_none_of_source hsource
    · rw [(hsettled other).eq_declared_iff_cut (hcycle.of_reaches hother)]
      constructor
      · intro hother'
        exact hother'.unique hcut ((hcycle.reaches_symm hother).trans hreaches)
      · rintro rfl
        exact hcut
  · intro position target hsource hcut
    obtain ⟨base, merged, hbase, hmerge, heq⟩ := (hsettled position).eq_merged hsource hcut
    obtain rfl := Option.some.inj hbase
    exact ⟨merged, hmerge, heq⟩

end Rail18.Copies
