import Mathlib.Dynamics.PeriodicPts.Lemmas
import Rail18.Hex.Copies

/-!
# The graph of references

Each hex refers to at most one other, so following references is iterating one function. From every
position the walk ends in a hex that refers to none or turns round in a cycle. Of each cycle one
position is met first when the walks from the positions 0, 1, 2, ... are taken one after the other,
and the reference to it, from the position before it on the cycle, is where the cycle is cut.
-/

namespace Rail18.Copies

variable (hexes : List Hex)

/-- The position that a hex refers to: the first that lists the coordinate it copies, unless that is
the hex itself. A hex that is the first to list its own copy coordinate refers to nothing, even where
another hex lists that coordinate after it. -/
def source (position : Fin hexes.length) : Option (Fin hexes.length) :=
  ((hexes.get position).copy.bind (position? hexes)).filter (· ≠ position)

/-- Where the reference of a position leads; without one it stays. -/
def next (position : Fin hexes.length) : Fin hexes.length :=
  (source hexes position).getD position

/-- References lead from one position to another, in any number of steps. -/
def Reaches (first last : Fin hexes.length) : Prop :=
  ∃ steps, (next hexes)^[steps] first = last

/-- References lead from a position to another one and back. -/
def OnCycle (position : Fin hexes.length) : Prop :=
  next hexes position ≠ position ∧ Reaches hexes (next hexes position) position

/-- Of the positions that references lead to from a position, it is the first to be met when
references are followed from the positions 0, 1, 2, ... in this order. -/
def MetFirst (position : Fin hexes.length) : Prop :=
  ∃ start steps, (next hexes)^[steps] start = position ∧
    (∀ fewer < steps, ¬ Reaches hexes position ((next hexes)^[fewer] start)) ∧
    ∀ earlier < start, ∀ count, ¬ Reaches hexes position ((next hexes)^[count] earlier)

/-- A cycle is cut at the position before the one that is met first. -/
def Cut (position : Fin hexes.length) : Prop :=
  OnCycle hexes position ∧ MetFirst hexes (next hexes position)

variable {hexes}

theorem next_of_source {position target : Fin hexes.length}
    (h : source hexes position = some target) : next hexes position = target := by
  rw [next, h, Option.getD_some]

theorem next_of_source_eq_none {position : Fin hexes.length} (h : source hexes position = none) :
    next hexes position = position := by
  rw [next, h, Option.getD_none]

namespace Reaches

variable {a b c : Fin hexes.length}

theorem refl (a : Fin hexes.length) : Reaches hexes a a := ⟨0, rfl⟩

theorem iterate (steps : Nat) (a : Fin hexes.length) : Reaches hexes a ((next hexes)^[steps] a) :=
  ⟨steps, rfl⟩

theorem trans (hab : Reaches hexes a b) (hbc : Reaches hexes b c) : Reaches hexes a c := by
  obtain ⟨m, rfl⟩ := hab
  obtain ⟨n, rfl⟩ := hbc
  exact ⟨n + m, Function.iterate_add_apply _ n m a⟩

theorem head (h : Reaches hexes (next hexes a) b) : Reaches hexes a b := by
  obtain ⟨steps, rfl⟩ := h
  exact ⟨steps + 1, rfl⟩

theorem eq_or_next (h : Reaches hexes a b) : a = b ∨ Reaches hexes (next hexes a) b := by
  obtain ⟨steps, rfl⟩ := h
  cases steps with
  | zero => exact .inl rfl
  | succ steps => exact .inr ⟨steps, rfl⟩

theorem eq_of_fixed (hfixed : next hexes a = a) (h : Reaches hexes a b) : a = b := by
  obtain ⟨steps, rfl⟩ := h
  exact (Function.iterate_fixed hfixed steps).symm

end Reaches

namespace OnCycle

variable {a b : Fin hexes.length}

theorem exists_isPeriodicPt (h : OnCycle hexes a) :
    ∃ period, 0 < period ∧ Function.IsPeriodicPt (next hexes) period a := by
  obtain ⟨-, steps, hsteps⟩ := h
  exact ⟨steps + 1, steps.succ_pos, hsteps⟩

theorem exists_source (h : OnCycle hexes a) : ∃ target, source hexes a = some target := by
  apply Option.ne_none_iff_exists'.mp
  intro hnone
  exact h.1 (next_of_source_eq_none hnone)

/-- From everywhere on a cycle references lead back. -/
theorem reaches_symm (ha : OnCycle hexes a) (h : Reaches hexes a b) : Reaches hexes b a := by
  obtain ⟨period, hpos, hperiod⟩ := ha.exists_isPeriodicPt
  obtain ⟨steps, rfl⟩ := h
  have hround : (next hexes)^[steps * period] a = a := hperiod.const_mul steps
  refine ⟨steps * period - steps, ?_⟩
  rw [← Function.iterate_add_apply, Nat.sub_add_cancel (Nat.le_mul_of_pos_right steps hpos), hround]

theorem of_reaches (ha : OnCycle hexes a) (h : Reaches hexes a b) : OnCycle hexes b := by
  have hback := ha.reaches_symm h
  have hmoves : next hexes b ≠ b := by
    intro hfixed
    have hsame := hback.eq_of_fixed hfixed
    subst hsame
    exact ha.1 hfixed
  refine ⟨hmoves, ?_⟩
  rcases hback.eq_or_next with rfl | hnext
  · exact ha.2
  · exact hnext.trans h

protected theorem next (ha : OnCycle hexes a) : OnCycle hexes (next hexes a) :=
  ha.of_reaches (.iterate 1 a)

/-- Two positions on a cycle that refer to the same position are the same. -/
theorem eq_of_next_eq (ha : OnCycle hexes a) (hb : OnCycle hexes b)
    (h : next hexes a = next hexes b) : a = b := by
  obtain ⟨m, hm, hperiodA⟩ := ha.exists_isPeriodicPt
  obtain ⟨n, hn, hperiodB⟩ := hb.exists_isPeriodicPt
  exact hperiodA.eq_of_apply_eq hperiodB hm hn h

end OnCycle

theorem MetFirst.unique {a b : Fin hexes.length} (ha : MetFirst hexes a) (hb : MetFirst hexes b)
    (hab : Reaches hexes a b) (hba : Reaches hexes b a) : a = b := by
  obtain ⟨startA, stepsA, rfl, hfewerA, hearlierA⟩ := ha
  obtain ⟨startB, stepsB, rfl, hfewerB, hearlierB⟩ := hb
  rcases lt_trichotomy startA startB with hlt | rfl | hlt
  · exact absurd hba (hearlierB startA hlt stepsA)
  · rcases lt_trichotomy stepsA stepsB with hlt | rfl | hlt
    · exact absurd hba (hfewerB stepsA hlt)
    · rfl
    · exact absurd hab (hfewerA stepsB hlt)
  · exact absurd hab (hearlierA startB hlt stepsB)

/-- Of the positions that references lead to, some one is met first. -/
theorem exists_metFirst (a : Fin hexes.length) :
    ∃ entry, Reaches hexes a entry ∧ MetFirst hexes entry := by
  classical
  have hsome : ∃ start, ∃ steps, Reaches hexes a ((next hexes)^[steps] start) := ⟨a, 0, .refl a⟩
  obtain ⟨start, hstart, hmin⟩ := wellFounded_lt.has_min
    {start | ∃ steps, Reaches hexes a ((next hexes)^[steps] start)} hsome
  refine ⟨_, Nat.find_spec hstart, start, Nat.find hstart, rfl, ?_, ?_⟩
  · intro fewer hfewer hreaches
    exact Nat.find_min hstart hfewer ((Nat.find_spec hstart).trans hreaches)
  · intro earlier hearlier count hreaches
    exact hmin earlier ⟨count, (Nat.find_spec hstart).trans hreaches⟩ hearlier

theorem OnCycle.exists_cut {a : Fin hexes.length} (ha : OnCycle hexes a) :
    ∃ position, Reaches hexes a position ∧ Cut hexes position := by
  obtain ⟨entry, hentry, hfirst⟩ := exists_metFirst a
  have hcycle := ha.of_reaches hentry
  obtain ⟨steps, hsteps⟩ := hcycle.2
  have hnext : next hexes ((next hexes)^[steps] entry) = entry :=
    (Function.iterate_succ_apply' (next hexes) steps entry).symm.trans hsteps
  have hreaches : Reaches hexes a ((next hexes)^[steps] entry) := hentry.trans (.iterate steps entry)
  exact ⟨_, hreaches, ha.of_reaches hreaches, hnext.symm ▸ hfirst⟩

theorem Cut.unique {a b : Fin hexes.length} (ha : Cut hexes a) (hb : Cut hexes b)
    (h : Reaches hexes a b) : a = b := by
  have hba := ha.1.reaches_symm h
  have hnextA : Reaches hexes (next hexes a) (next hexes b) :=
    (ha.1.2.trans h).trans (.iterate 1 b)
  have hnextB : Reaches hexes (next hexes b) (next hexes a) :=
    (hb.1.2.trans hba).trans (.iterate 1 a)
  exact ha.1.eq_of_next_eq hb.1 (ha.2.unique hb.2 hnextA hnextB)

/-- A cycle is cut at one position only, so not at the next one as well. -/
theorem Cut.not_cut_next {a : Fin hexes.length} (ha : Cut hexes a) : ¬ Cut hexes (next hexes a) := by
  intro hnext
  exact ha.1.1 (ha.unique hnext (.iterate 1 a)).symm

end Rail18.Copies
