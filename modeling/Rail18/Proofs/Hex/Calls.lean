import Mathlib.Logic.Relation
import Rail18.Proofs.Hex.Copies

/-!
# Calls while copies are followed

To follow the copy of a hex is a call, which may make another call before it returns. Here a run is
taken apart into the moments at which calls begin, go on and return, so that it can be said which calls
are active when. All that a moment does to the next one is said once, in `Sound.advance`: whatever holds
at every moment, or between any two of them, follows from it. That the moments are those of the run is
said by `follow_leads` for each call and by `followAll_leads` for the calls from outside.
-/

namespace Rail18.Copies

/-! ### Moments -/

/-- Where a run stands: no call is active, or the innermost one begins, goes on with what the call that
it made has returned, or returns. -/
inductive Point (n : Nat) where
  | idle
  | begun (position : Fin n)
  | resumed (position : Fin n) (base : Except CompileError Hex)
  | returned (position : Fin n) (result : Except CompileError Hex)

/-- A moment of a run: where it stands, the positions of the calls around the innermost one from the
inside out, what has been found so far, the positions still to be called for from outside, and the hexes
that the calls from outside have returned. -/
structure Moment (n : Nat) where
  point : Point n
  callers : List (Fin n) := []
  state : State n := {}
  pending : List (Fin n)
  resolved : List Hex := []

/-- A reference goes back to its own position or to one that is being visited. -/
def State.RefersBack {n : Nat} (state : State n) (position target : Fin n) : Prop :=
  target = position ∨ target ∈ state.visiting

instance {n : Nat} (state : State n) (position target : Fin n) :
    Decidable (state.RefersBack position target) :=
  inferInstanceAs (Decidable (_ ∨ _))

namespace Moment

section Parts

variable {n : Nat}

/-- The positions of the active calls, from the inside out. -/
def calls (moment : Moment n) : List (Fin n) :=
  match moment.point with
  | .idle => moment.callers
  | .begun position | .resumed position _ | .returned position _ => position :: moment.callers

/-- The innermost call returns with a result and the state that it leaves. -/
def answer (moment : Moment n) (position : Fin n) (outcome : Except CompileError Hex × State n) :
    Moment n :=
  { moment with point := .returned position outcome.1, state := outcome.2 }

/-- The innermost call enters its position and makes a call for another one. -/
def descend (moment : Moment n) (position target : Fin n) : Moment n :=
  { moment with
    point := .begun target
    callers := position :: moment.callers
    state := moment.state.enter position }

end Parts

variable (hexes : List Hex) (moment : Moment hexes.length) (position : Fin hexes.length)

/-- What a call does first. -/
def proceed : Moment hexes.length :=
  match moment.state.found.get position with
  | some hex => moment.answer position (.ok hex, moment.state)
  | none =>
    match (hexes.get position).copy with
    | none =>
      moment.answer position
        (.ok (hexes.get position), moment.state.keep position (hexes.get position))
    | some coord =>
      match position? hexes coord with
      | none => moment.answer position (keepPartial hexes position moment.state)
      | some target =>
        if moment.state.RefersBack position target then
          moment.answer position (keepPartial hexes position moment.state)
        else
          moment.descend position target

/-- What a call does with what the call that it made has returned. -/
def conclude (base : Except CompileError Hex) : Moment hexes.length :=
  match base.bind (settle (hexes.get position)) with
  | .ok resolved => moment.answer position (.ok resolved, moment.state.keep position resolved)
  | .error error => moment.answer position (.error error, moment.state)

/-- What comes next, if the run goes on. -/
def next? : Option (Moment hexes.length) :=
  match moment.point with
  | .idle =>
    match moment.pending with
    | [] => none
    | position :: pending => some { moment with point := .begun position, pending }
  | .begun position => some (moment.proceed hexes position)
  | .resumed position base => some (moment.conclude hexes position base)
  | .returned _ result =>
    match moment.callers, result with
    | caller :: callers, _ =>
      some { moment with point := .resumed caller result, callers, state := moment.state.leave caller }
    | [], .ok hex => some { moment with point := .idle, resolved := moment.resolved ++ [hex] }
    | [], .error _ => none

end Moment

/-- A moment leads to another one while some calls stay active. -/
def Leads (hexes : List Hex) (calls : List (Fin hexes.length)) :
    Moment hexes.length → Moment hexes.length → Prop :=
  Relation.ReflTransGen fun moment later =>
    moment.next? hexes = some later ∧ calls <:+ later.calls

/-- A moment of the run that resolves all copies. -/
def Reached (hexes : List Hex) (moment : Moment hexes.length) : Prop :=
  Leads hexes [] { point := .idle, pending := List.finRange hexes.length } moment

/-- The call for a position inside other calls began at one moment, and has been active since until
another one. -/
structure ActiveSince (hexes : List Hex) (position : Fin hexes.length)
    (callers : List (Fin hexes.length)) (begun moment : Moment hexes.length) : Prop where
  reached : Reached hexes begun
  point_eq : begun.point = .begun position
  callers_eq : begun.callers = callers
  leads : Leads hexes (position :: callers) begun moment

variable {hexes : List Hex}

/-! ### One step -/

/-- What is known where a run stands: for a call that goes on nothing has been found yet, and what a
call returns has been found. -/
def Point.Fits {n : Nat} (callers : List (Fin n)) (state : State n) : Point n → Prop
  | .idle => callers = []
  | .begun _ => True
  | .resumed position base => state.found.get position = none ∧ ∃ hex, base = .ok hex
  | .returned position result => ∃ hex, result = .ok hex ∧ state.found.get position = some hex

/-- The visited positions are those of the calls around the innermost one. No two calls are active for
one position, and nothing has been found for a call that waits for another one. -/
structure Sound {n : Nat} (moment : Moment n) : Prop where
  visiting_eq : moment.state.visiting = moment.callers
  nodup : moment.calls.Nodup
  found_eq_none : ∀ caller ∈ moment.callers, moment.state.found.get caller = none
  fits : moment.point.Fits moment.callers moment.state

/-- What a moment does to the next one: nothing that was found changes, and either a call begins inside
the active ones, or none begins. -/
structure Advance {n : Nat} (moment later : Moment n) : Prop where
  sound : Sound later
  kept : ∀ position hex, moment.state.found.get position = some hex →
    later.state.found.get position = some hex
  calls : later.calls <:+ moment.calls ∨
    ∃ position, later.point = .begun position ∧ later.callers = moment.calls

namespace Sound

section Steps

variable {n : Nat} {moment : Moment n} {position : Fin n}

theorem answer_found (h : Sound moment) (hcalls : moment.calls = position :: moment.callers) {hex : Hex}
    (hfound : moment.state.found.get position = some hex) :
    Advance moment (moment.answer position (.ok hex, moment.state)) := by
  have hnodup : (position :: moment.callers).Nodup := hcalls ▸ h.nodup
  have hsound : Sound (moment.answer position (.ok hex, moment.state)) :=
    { visiting_eq := h.visiting_eq
      nodup := hnodup
      found_eq_none := h.found_eq_none
      fits := ⟨hex, rfl, hfound⟩ }
  exact ⟨hsound, fun _ _ hold => hold, .inl (hcalls ▸ List.suffix_rfl)⟩

/-- A call that returns what it keeps writes over nothing, and leaves the calls around it unfound. -/
theorem answer_keep (h : Sound moment) (hcalls : moment.calls = position :: moment.callers)
    (hfresh : moment.state.found.get position = none) (state : State n)
    (hfound : state.found = moment.state.found) (hvisiting : state.visiting = moment.state.visiting)
    (hex : Hex) : Advance moment (moment.answer position (.ok hex, state.keep position hex)) := by
  have hnodup := hcalls ▸ h.nodup
  have hother (caller : Fin n) (hcaller : caller ∈ moment.callers) :
      (state.keep position hex).found.get caller = none := by
    have hne : caller ≠ position := fun hsame => (List.nodup_cons.mp hnodup).1 (hsame ▸ hcaller)
    rw [get_keep, if_neg hne, hfound, h.found_eq_none caller hcaller]
  have hself : (state.keep position hex).found.get position = some hex := by rw [get_keep, if_pos rfl]
  have hsound : Sound (moment.answer position (.ok hex, state.keep position hex)) :=
    { visiting_eq := hvisiting.trans h.visiting_eq
      nodup := hnodup
      found_eq_none := hother
      fits := ⟨hex, rfl, hself⟩ }
  refine ⟨hsound, fun other old hold => ?_, .inl (hcalls ▸ List.suffix_rfl)⟩
  exact kept_keep state (hfound ▸ hfresh) hex other old (hfound ▸ hold)

/-- A call is made only for a position that no call is active for. -/
theorem descend (h : Sound moment) (hcalls : moment.calls = position :: moment.callers)
    (hfresh : moment.state.found.get position = none) {target : Fin n}
    (hnew : ¬ moment.state.RefersBack position target) :
    Advance moment (moment.descend position target) := by
  have hnodup := hcalls ▸ h.nodup
  rw [State.RefersBack, h.visiting_eq, ← List.mem_cons] at hnew
  have hvisiting : moment.state.visiting.insert position = position :: moment.callers := by
    rw [h.visiting_eq, List.insert_of_not_mem (List.nodup_cons.mp hnodup).1]
  have hunfound : ∀ caller ∈ position :: moment.callers, moment.state.found.get caller = none :=
    List.forall_mem_cons.mpr ⟨hfresh, h.found_eq_none⟩
  have hsound : Sound (moment.descend position target) :=
    { visiting_eq := hvisiting
      nodup := List.nodup_cons.mpr ⟨hnew, hnodup⟩
      found_eq_none := hunfound
      fits := trivial }
  exact ⟨hsound, fun _ _ hold => hold, .inr ⟨target, rfl, hcalls.symm⟩⟩

/-- The call that goes on when another one returns was the last to be entered. -/
theorem resume (h : Sound moment) {result : Except CompileError Hex}
    (hpoint : moment.point = .returned position result) {caller : Fin n} {callers : List (Fin n)}
    (hcallers : moment.callers = caller :: callers) :
    Advance moment
      { moment with point := .resumed caller result, callers, state := moment.state.leave caller } := by
  have hcalls : moment.calls = position :: caller :: callers := by
    rw [Moment.calls, hpoint, hcallers]
  have hnodup := (List.nodup_cons.mp (hcalls ▸ h.nodup)).2
  have hvisiting : moment.state.visiting.erase caller = callers := by
    rw [h.visiting_eq, hcallers, List.erase_cons_head]
  have hunfound := h.found_eq_none
  rw [hcallers, List.forall_mem_cons] at hunfound
  obtain ⟨hex, hresult, -⟩ : Point.Fits _ _ (.returned position result) := hpoint ▸ h.fits
  have hsound : Sound { moment with
      point := .resumed caller result, callers, state := moment.state.leave caller } :=
    { visiting_eq := hvisiting
      nodup := hnodup
      found_eq_none := hunfound.2
      fits := ⟨hunfound.1, hex, hresult⟩ }
  exact ⟨hsound, fun _ _ hold => hold, .inl (hcalls ▸ List.suffix_cons position _)⟩

end Steps

variable {moment later : Moment hexes.length} {position : Fin hexes.length}

theorem proceed (h : Sound moment) (hpoint : moment.point = .begun position) :
    Advance moment (moment.proceed hexes position) := by
  have hcalls : moment.calls = position :: moment.callers := by rw [Moment.calls, hpoint]
  unfold Moment.proceed
  cases hfound : moment.state.found.get position with
  | some hex => exact h.answer_found hcalls hfound
  | none =>
      have hpartial : Advance moment
          (moment.answer position (keepPartial hexes position moment.state)) :=
        h.answer_keep hcalls hfound (moment.state.giveUp position) rfl rfl _
      cases (hexes.get position).copy with
      | none => exact h.answer_keep hcalls hfound moment.state rfl rfl _
      | some coord =>
          cases hposition : position? hexes coord with
          | none => simpa only [hposition] using hpartial
          | some target =>
              simp only [hposition]
              split
              · exact hpartial
              · next hnew => exact h.descend hcalls hfound hnew

theorem conclude (h : Sound moment) {base : Except CompileError Hex}
    (hpoint : moment.point = .resumed position base) :
    Advance moment (moment.conclude hexes position base) := by
  have hcalls : moment.calls = position :: moment.callers := by rw [Moment.calls, hpoint]
  obtain ⟨hfresh, hex, rfl⟩ : Point.Fits _ _ (.resumed position base) := hpoint ▸ h.fits
  obtain ⟨merged, -, hsettle⟩ := settle_eq_ok (hexes.get position) hex
  have hbase : (Except.ok hex).bind (settle (hexes.get position)) = _ := hsettle
  rw [Moment.conclude, hbase]
  exact h.answer_keep hcalls hfresh moment.state rfl rfl _

theorem advance (h : Sound moment) (hnext : moment.next? hexes = some later) :
    Advance moment later := by
  have hfits := h.fits
  cases hpoint : moment.point with
  | idle =>
      rw [hpoint] at hfits
      have hcallers : moment.callers = [] := hfits
      have hcalls : moment.calls = [] := by rw [Moment.calls, hpoint, hcallers]
      cases hpending : moment.pending with
      | nil => simp [Moment.next?, hpoint, hpending] at hnext
      | cons position pending =>
          simp only [Moment.next?, hpoint, hpending] at hnext
          obtain rfl := Option.some.inj hnext
          have hnodup : (position :: moment.callers).Nodup := hcallers ▸ List.nodup_singleton position
          have hsound : Sound { moment with point := .begun position, pending } :=
            { visiting_eq := h.visiting_eq
              nodup := hnodup
              found_eq_none := h.found_eq_none
              fits := trivial }
          exact ⟨hsound, fun _ _ hold => hold, .inr ⟨position, rfl, hcallers.trans hcalls.symm⟩⟩
  | begun position =>
      rw [Moment.next?, hpoint] at hnext
      obtain rfl := Option.some.inj hnext
      exact h.proceed hpoint
  | resumed position base =>
      rw [Moment.next?, hpoint] at hnext
      obtain rfl := Option.some.inj hnext
      exact h.conclude hpoint
  | returned position result =>
      rw [hpoint] at hfits
      obtain ⟨hex, rfl, -⟩ := hfits
      cases hcallers : moment.callers with
      | cons caller callers =>
          simp only [Moment.next?, hpoint, hcallers] at hnext
          obtain rfl := Option.some.inj hnext
          exact h.resume hpoint hcallers
      | nil =>
          simp only [Moment.next?, hpoint, hcallers] at hnext
          obtain rfl := Option.some.inj hnext
          have hsound : Sound { moment with
              point := .idle, callers := [], resolved := moment.resolved ++ [hex] } :=
            { visiting_eq := h.visiting_eq.trans hcallers
              nodup := List.nodup_nil
              found_eq_none := nofun
              fits := rfl }
          exact ⟨hsound, fun _ _ hold => hold, .inl List.nil_suffix⟩

end Sound

/-! ### From moment to moment -/

namespace Leads

variable {calls : List (Fin hexes.length)} {moment later last : Moment hexes.length}

theorem single (hnext : moment.next? hexes = some later) (hcalls : calls <:+ later.calls) :
    Leads hexes calls moment later :=
  Relation.ReflTransGen.single ⟨hnext, hcalls⟩

theorem trans (hfirst : Leads hexes calls moment later) (hthen : Leads hexes calls later last) :
    Leads hexes calls moment last :=
  Relation.ReflTransGen.trans hfirst hthen

theorem weaken {outer : List (Fin hexes.length)} (houter : outer <:+ calls)
    (h : Leads hexes calls moment later) : Leads hexes outer moment later :=
  Relation.ReflTransGen.mono (fun _ _ hstep => ⟨hstep.1, houter.trans hstep.2⟩) _ _ h

theorem advance (h : Leads hexes calls moment later) (hsound : Sound moment) :
    Sound later ∧ ∀ position hex, moment.state.found.get position = some hex →
      later.state.found.get position = some hex := by
  induction h with
  | refl => exact ⟨hsound, fun _ _ hfound => hfound⟩
  | tail _ hstep ih =>
      obtain ⟨hbetween, hkept⟩ := ih
      have hadvance := hbetween.advance hstep.1
      exact ⟨hadvance.sound, fun _ _ hfound => hadvance.kept _ _ (hkept _ _ hfound)⟩

/-- What a moment leads to is one after the other, since only one moment comes next. -/
theorem total (hlater : Leads hexes calls moment later) (hlast : Leads hexes calls moment last) :
    Leads hexes calls later last ∨ Leads hexes calls last later := by
  refine Relation.ReflTransGen.total_of_right_unique ?_ hlater hlast
  intro _ _ _ hfirst hsecond
  exact Option.some.inj (hfirst.1.symm.trans hsecond.1)

theorem eq_of_next?_eq_none (h : Leads hexes calls moment later) (hend : moment.next? hexes = none) :
    moment = later := by
  obtain rfl | ⟨between, hstep, -⟩ := Relation.ReflTransGen.cases_head h
  · rfl
  · cases hend.symm.trans hstep.1

end Leads

theorem ActiveSince.step {position : Fin hexes.length} {callers : List (Fin hexes.length)}
    {begun moment later : Moment hexes.length} (h : ActiveSince hexes position callers begun moment)
    (hnext : moment.next? hexes = some later) (hcalls : position :: callers <:+ later.calls) :
    ActiveSince hexes position callers begun later :=
  ⟨h.reached, h.point_eq, h.callers_eq, h.leads.trans (.single hnext hcalls)⟩

theorem sound_start (n : Nat) : Sound { point := .idle, pending := List.finRange n } where
  visiting_eq := rfl
  nodup := List.nodup_nil
  found_eq_none := nofun
  fits := rfl

namespace Reached

variable {moment later : Moment hexes.length}

theorem sound (h : Reached hexes moment) : Sound moment := (h.advance (sound_start _)).1

theorem leads {calls : List (Fin hexes.length)} (h : Reached hexes moment)
    (hleads : Leads hexes calls moment later) : Reached hexes later :=
  h.trans (hleads.weaken List.nil_suffix)

/-- A run that has an end comes to it from every moment. -/
theorem leads_end (h : Reached hexes moment) (hlater : Reached hexes later)
    (hend : later.next? hexes = none) : Leads hexes [] moment later := by
  obtain hleads | hleads := Leads.total h hlater
  · exact hleads
  · obtain rfl := hleads.eq_of_next?_eq_none hend
    exact .refl

theorem calls_length_le (h : Reached hexes moment) : moment.calls.length ≤ hexes.length := by
  have hle := h.sound.nodup.length_le_card
  rwa [Fintype.card_fin] at hle

/-- Every active call has begun inside the calls that are around it now. -/
theorem exists_activeSince (h : Reached hexes moment) {position : Fin hexes.length}
    {callers : List (Fin hexes.length)} (hactive : position :: callers <:+ moment.calls) :
    ∃ begun, ActiveSince hexes position callers begun moment := by
  induction h with
  | refl => cases List.suffix_nil.mp hactive
  | @tail between later hbetween hstep ih =>
      have hreached : Reached hexes between := hbetween
      obtain hends | ⟨target, hpoint, hcallers⟩ := (hreached.sound.advance hstep.1).calls
      · obtain ⟨begun, hbegun⟩ := ih (hactive.trans hends)
        exact ⟨begun, hbegun.step hstep.1 hactive⟩
      -- The call that begins is the only new one.
      · have hcalls : later.calls = target :: between.calls := by rw [Moment.calls, hpoint, hcallers]
        have hsuffix : position :: callers <:+ target :: between.calls := hcalls ▸ hactive
        obtain hsame | hbefore := List.suffix_cons_iff.mp hsuffix
        · obtain ⟨rfl, rfl⟩ := List.cons.inj hsame
          exact ⟨later, hreached.leads (.single hstep.1 List.nil_suffix), hpoint, hcallers, .refl⟩
        · obtain ⟨begun, hbegun⟩ := ih hbefore
          exact ⟨begun, hbegun.step hstep.1 hactive⟩

end Reached

/-! ### The moments of a run -/

section Calls

variable {moment later : Moment hexes.length} {position target : Fin hexes.length}

theorem leads_proceed (hpoint : moment.point = .begun position)
    (hproceed : moment.proceed hexes position = later)
    (hcalls : position :: moment.callers <:+ later.calls) :
    Leads hexes (position :: moment.callers) moment later := by
  have hnext : moment.next? hexes = some later := by rw [Moment.next?, hpoint, ← hproceed]
  exact .single hnext hcalls

/-- A call that makes another one waits for its return, goes on and returns. -/
theorem leads_descend {coord : String} {outcome answer : Except CompileError Hex × State hexes.length}
    (hpoint : moment.point = .begun position) (hfresh : moment.state.found.get position = none)
    (hcopy : (hexes.get position).copy = some coord) (hposition : position? hexes coord = some target)
    (hnew : ¬ moment.state.RefersBack position target)
    (hcall : Leads hexes (target :: position :: moment.callers) (moment.descend position target)
      ((moment.descend position target).answer target outcome))
    (hconclude : Moment.conclude hexes { moment with state := outcome.2.leave position } position
      outcome.1 = moment.answer position answer) :
    Leads hexes (position :: moment.callers) moment (moment.answer position answer) := by
  have hproceed : moment.proceed hexes position = moment.descend position target := by
    simp only [Moment.proceed, hfresh, hcopy, hposition, if_neg hnew]
  let resumed : Moment hexes.length :=
    { moment with point := .resumed position outcome.1, state := outcome.2.leave position }
  have hresume : ((moment.descend position target).answer target outcome).next? hexes = some resumed :=
    rfl
  have hreturn : resumed.next? hexes = some (moment.answer position answer) := congrArg some hconclude
  have hdescend := leads_proceed hpoint hproceed (List.suffix_cons target _)
  have hreturned := hcall.weaken (List.suffix_cons target _)
  exact hdescend.trans (hreturned.trans
    ((Leads.single hresume List.suffix_rfl).trans (.single hreturn List.suffix_rfl)))

end Calls

/-- From its beginning a call comes to its return, with what following the copy gives. -/
theorem follow_leads (position : Fin hexes.length) (state : State hexes.length)
    (moment : Moment hexes.length) (hpoint : moment.point = .begun position)
    (hstate : moment.state = state) :
    Leads hexes (position :: moment.callers) moment
      (moment.answer position (follow hexes position state)) := by
  induction position, state using follow.induct_unfolding hexes generalizing moment with
  | case1 position state hex hfound =>
      subst hstate
      exact leads_proceed hpoint (by simp only [Moment.proceed, hfound]) List.suffix_rfl
  | case2 position state hfresh hcopy =>
      subst hstate
      exact leads_proceed hpoint (by simp only [Moment.proceed, hfresh, hcopy]) List.suffix_rfl
  | case3 position state hfresh coord hcopy hposition =>
      subst hstate
      refine leads_proceed hpoint ?_ List.suffix_rfl
      simp only [Moment.proceed, hfresh, hcopy, hposition]
  | case4 position state hfresh coord hcopy target hposition hvisited =>
      subst hstate
      have hback : moment.state.RefersBack position target := hvisited
      refine leads_proceed hpoint ?_ List.suffix_rfl
      simp only [Moment.proceed, hfresh, hcopy, hposition, if_pos hback]
  | case5 position state hfresh coord hcopy target hposition hvisited base after hfollow resolved
      hresolved ih =>
      subst hstate
      have hcall := ih (moment.descend position target) rfl rfl
      rw [hfollow] at hcall
      refine leads_descend hpoint hfresh hcopy hposition hvisited hcall ?_
      rw [Moment.conclude, hresolved]
      rfl
  | case6 position state hfresh coord hcopy target hposition hvisited base after hfollow error herror
      ih =>
      subst hstate
      have hcall := ih (moment.descend position target) rfl rfl
      rw [hfollow] at hcall
      refine leads_descend hpoint hfresh hcopy hposition hvisited hcall ?_
      rw [Moment.conclude, herror]
      rfl

/-- A call from outside is made, and what it returns is collected. -/
theorem leads_outside {position : Fin hexes.length} {state after : State hexes.length} {hex : Hex}
    (pending : List (Fin hexes.length)) (resolved : List Hex)
    (hcall : follow hexes position state = (.ok hex, after)) :
    Leads hexes [] { point := .idle, state, pending := position :: pending, resolved }
      { point := .idle, state := after, pending, resolved := resolved ++ [hex] } := by
  let begun : Moment hexes.length := { point := .begun position, state, pending, resolved }
  have hbegins : Leads hexes [] { point := .idle, state, pending := position :: pending, resolved }
      begun := .single rfl List.nil_suffix
  have hfollow := (follow_leads position state begun rfl rfl).weaken List.nil_suffix
  rw [hcall] at hfollow
  have hends : Leads hexes [] (begun.answer position (.ok hex, after))
      { point := .idle, state := after, pending, resolved := resolved ++ [hex] } :=
    .single rfl List.nil_suffix
  exact hbegins.trans (hfollow.trans hends)

theorem followAll_leads (pending : List (Fin hexes.length)) (state : State hexes.length)
    (resolved : List Hex) {found : List Hex} {after : State hexes.length}
    (h : followAll hexes pending state = (.ok found, after)) :
    Leads hexes [] { point := .idle, state, pending, resolved }
      { point := .idle, state := after, pending := [], resolved := resolved ++ found } := by
  induction pending generalizing state resolved found with
  | nil =>
      obtain ⟨hfound, rfl⟩ := Prod.mk.inj h
      obtain rfl := Except.ok.inj hfound
      rw [List.append_nil]
      exact .refl
  | cons position pending ih =>
      cases hcall : follow hexes position state with
      | mk result between =>
          rw [followAll, hcall] at h
          cases result with
          | error error => cases h
          | ok hex =>
              obtain ⟨hmap, hafter⟩ := Prod.mk.inj h
              obtain ⟨later, hlater, rfl⟩ := map_eq_ok.mp hmap
              have hrest := ih between (resolved ++ [hex]) (Prod.ext hlater hafter)
              rw [List.append_assoc, List.singleton_append] at hrest
              exact (leads_outside pending resolved hcall).trans hrest

/-- Every call that has begun returns a hex, which it leaves in what has been found, with the positions
visited that were visited when it began. -/
theorem Reached.returns {moment : Moment hexes.length} (h : Reached hexes moment)
    {position : Fin hexes.length} (hpoint : moment.point = .begun position) :
    ∃ hex after, follow hexes position moment.state = (.ok hex, after) ∧
      Leads hexes moment.calls moment (moment.answer position (.ok hex, after)) ∧
      after.visiting = moment.state.visiting ∧ after.found.get position = some hex := by
  have hcalls : moment.calls = position :: moment.callers := by rw [Moment.calls, hpoint]
  have hleads := follow_leads position moment.state moment hpoint rfl
  have hsound := (h.leads hleads).sound
  cases hfollow : follow hexes position moment.state with
  | mk result after =>
      rw [hfollow] at hleads hsound
      obtain ⟨hex, rfl, hfound⟩ := hsound.fits
      have hvisiting : after.visiting = moment.callers := hsound.visiting_eq
      exact ⟨hex, after, rfl, hcalls ▸ hleads, hvisiting.trans h.sound.visiting_eq.symm, hfound⟩

/-- Every return is that of a call, which began with the same positions visited. -/
theorem Reached.exists_call {moment : Moment hexes.length} (h : Reached hexes moment)
    {position : Fin hexes.length} {result : Except CompileError Hex}
    (hpoint : moment.point = .returned position result) :
    ∃ begun hex, ActiveSince hexes position moment.callers begun moment ∧
      moment.state.visiting = begun.state.visiting ∧ result = .ok hex ∧
      moment.state.found.get position = some hex := by
  have hcalls : moment.calls = position :: moment.callers := by rw [Moment.calls, hpoint]
  have hactive : position :: moment.callers <:+ moment.calls := hcalls ▸ List.suffix_rfl
  obtain ⟨begun, hbegun⟩ := h.exists_activeSince hactive
  obtain ⟨hex, hresult, hfound⟩ : Point.Fits _ _ (.returned position result) :=
    hpoint ▸ h.sound.fits
  refine ⟨begun, hex, hbegun, ?_, hresult, hfound⟩
  rw [h.sound.visiting_eq, hbegun.reached.sound.visiting_eq, hbegun.callers_eq]

/-- At every moment of a run the visited positions are those of the calls around the innermost one,
no two calls are active for one position, nothing has been found for a call that waits for another one,
and no more calls are active than there are hexes. The active calls are those that have begun and not
returned since. Every call that begins returns, and every return is that of a call: the positions that
were visited when it began are visited again, and the hex that it returns has been found. What has been
found never changes. Whatever the references, the run has one end, which it comes to from every moment,
with what resolving all copies gives. -/
theorem run_calls_nest (hexes : List Hex) :
    (∀ moment, Reached hexes moment →
      moment.state.visiting = moment.callers ∧ moment.calls.Nodup ∧
        (∀ caller ∈ moment.callers, moment.state.found.get caller = none) ∧
        moment.calls.length ≤ hexes.length ∧
        (∀ position callers, position :: callers <:+ moment.calls →
          ∃ begun, ActiveSince hexes position callers begun moment) ∧
        (∀ position, moment.point = .begun position →
          ∃ hex after, follow hexes position moment.state = (.ok hex, after) ∧
            Leads hexes moment.calls moment (moment.answer position (.ok hex, after)) ∧
            after.visiting = moment.state.visiting ∧ after.found.get position = some hex) ∧
        (∀ position result, moment.point = .returned position result →
          ∃ begun hex, ActiveSince hexes position moment.callers begun moment ∧
            moment.state.visiting = begun.state.visiting ∧ result = .ok hex ∧
            moment.state.found.get position = some hex) ∧
        ∀ later, Leads hexes [] moment later → ∀ position hex,
          moment.state.found.get position = some hex →
            later.state.found.get position = some hex) ∧
      ∃ last, last.next? hexes = none ∧ run hexes = (.ok last.resolved, last.state) ∧
        ∀ moment, Reached hexes moment → Leads hexes [] moment last := by
  constructor
  · intro moment h
    have hsound := h.sound
    exact ⟨hsound.visiting_eq, hsound.nodup, hsound.found_eq_none, h.calls_length_le,
      fun _ _ => h.exists_activeSince, fun _ => h.returns, fun _ _ => h.exists_call,
      fun _ hlater => (hlater.advance hsound).2⟩
  · obtain ⟨resolved, hresolved, -⟩ := exists_resolveCopies hexes
    have hrun : run hexes = (.ok resolved, (run hexes).2) := Prod.ext hresolved rfl
    have hlast := followAll_leads _ _ [] hrun
    exact ⟨_, rfl, hrun, fun _ h => h.leads_end hlast rfl⟩

/-- When two hexes copy each other, as many calls become active as there are hexes. -/
example :
    let ring : List Hex :=
      [{ coords := ["A1"], copy := some "B1" }, { coords := ["B1"], copy := some "A1" }]
    let start : Moment ring.length := { point := .idle, pending := List.finRange ring.length }
    ((start.next? ring).bind (·.next? ring)).map (·.calls) = some [1, 0] := by
  decide

end Rail18.Copies
