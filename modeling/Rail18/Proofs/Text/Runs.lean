import Mathlib.Data.List.TakeWhile

/-!
# Runs of characters of a class

A text that begins with a run of characters of a class, and a text that has such characters at its ends.
What remains of it is told by the parts that the text is made of.
-/

namespace Rail18.Text

variable {p : Char → Bool} {s run rest inner : List Char}

/-- The longest run of characters of a class that a text begins with, and the rest of the text. -/
structure LeadingRun (p : Char → Bool) (s run rest : List Char) : Prop where
  eq_append : s = run ++ rest
  all : ∀ c ∈ run, p c = true
  stop : ∀ c ∈ rest.head?, p c = false

/-- A text without the characters of a class at its two ends. -/
inductive Stripped (p : Char → Bool) : List Char → List Char → Prop
  | intro {before inner after : List Char} : (∀ c ∈ before, p c = true) → (∀ c ∈ after, p c = true) →
      (∀ c ∈ inner.head?, p c = false) → (∀ c ∈ inner.getLast?, p c = false) →
      Stripped p (before ++ inner ++ after) inner

/-! ### The front of a text -/

theorem leadingRun_self (p : Char → Bool) (s : List Char) :
    LeadingRun p s (s.takeWhile p) (s.dropWhile p) where
  eq_append := List.takeWhile_append_dropWhile.symm
  all c hc := List.mem_takeWhile_imp hc
  stop c hc := by
    have hnot := List.head?_dropWhile_not p s
    rw [hc] at hnot
    simpa using hnot

theorem LeadingRun.dropWhile_eq (h : LeadingRun p s run rest) : s.dropWhile p = rest := by
  rw [h.eq_append, List.dropWhile_append_of_pos h.all]
  cases rest with
  | nil => rfl
  | cons c rest => exact List.dropWhile_cons_of_neg (by simp [h.stop c rfl])

theorem LeadingRun.takeWhile_eq (h : LeadingRun p s run rest) : s.takeWhile p = run := by
  have hparts : s.takeWhile p ++ rest = run ++ rest := by
    rw [← h.eq_append, ← h.dropWhile_eq, List.takeWhile_append_dropWhile]
  exact List.append_cancel_right hparts

theorem leadingRun_iff : LeadingRun p s run rest ↔ s.takeWhile p = run ∧ s.dropWhile p = rest := by
  constructor
  · intro h
    exact ⟨h.takeWhile_eq, h.dropWhile_eq⟩
  · rintro ⟨rfl, rfl⟩
    exact leadingRun_self p s

/-! ### Both ends of a text -/

/-- What is left when the front and then the back of a text have been dropped. -/
theorem stripped_self (p : Char → Bool) (s : List Char) :
    Stripped p s ((s.dropWhile p).reverse.dropWhile p).reverse := by
  have hfront := leadingRun_self p s
  have hback := leadingRun_self p (s.dropWhile p).reverse
  have hkept : s.dropWhile p = ((s.dropWhile p).reverse.dropWhile p).reverse ++
      ((s.dropWhile p).reverse.takeWhile p).reverse := by
    rw [← List.reverse_append, ← hback.eq_append, List.reverse_reverse]
  have hparts : s = s.takeWhile p ++ ((s.dropWhile p).reverse.dropWhile p).reverse ++
      ((s.dropWhile p).reverse.takeWhile p).reverse := by
    rw [List.append_assoc, ← hkept]
    exact hfront.eq_append
  have hhead : ∀ c ∈ ((s.dropWhile p).reverse.dropWhile p).reverse.head?, p c = false := by
    intro c hc
    refine hfront.stop c ?_
    rw [hkept, List.head?_append, hc]
    rfl
  have hlast : ∀ c ∈ ((s.dropWhile p).reverse.dropWhile p).reverse.getLast?, p c = false := by
    rw [List.getLast?_reverse]
    exact hback.stop
  have h := Stripped.intro hfront.all (fun c hc => hback.all c (List.mem_reverse.mp hc)) hhead hlast
  rwa [← hparts] at h

theorem Stripped.eq (h : Stripped p s inner) : ((s.dropWhile p).reverse.dropWhile p).reverse = inner := by
  obtain ⟨hbefore, hafter, hhead, hlast⟩ := h
  rename_i before after
  have hend : ∀ c ∈ after.reverse, p c = true := fun c hc => hafter c (List.mem_reverse.mp hc)
  cases inner with
  | nil =>
      -- Nothing is left, so that the characters before and after are one run.
      have hall : ∀ c ∈ before ++ [] ++ after, p c = true := by
        intro c hc
        rw [List.append_nil, List.mem_append] at hc
        exact hc.elim (hbefore c) (hafter c)
      rw [List.dropWhile_eq_nil_iff.mpr hall]
      rfl
  | cons first tail =>
      have hfront : LeadingRun p (before ++ first :: tail ++ after) before (first :: tail ++ after) :=
        ⟨List.append_assoc .., hbefore, hhead⟩
      have hback : LeadingRun p (first :: tail ++ after).reverse after.reverse (first :: tail).reverse :=
        ⟨List.reverse_append, hend, by rwa [List.head?_reverse]⟩
      rw [hfront.dropWhile_eq, hback.dropWhile_eq, List.reverse_reverse]

theorem stripped_iff : Stripped p s inner ↔ ((s.dropWhile p).reverse.dropWhile p).reverse = inner := by
  constructor
  · exact Stripped.eq
  · rintro rfl
    exact stripped_self p s

/-- Nothing in front of what is left is taken away where the text begins with a character that stays. -/
theorem Stripped.exists_append (h : Stripped p s inner) (hhead : ∀ c ∈ s.head?, p c = false) :
    ∃ after, s = inner ++ after ∧ ∀ c ∈ after, p c = true := by
  obtain ⟨hbefore, hafter, -, -⟩ := h
  rename_i before after
  cases before with
  | nil => exact ⟨after, rfl, hafter⟩
  | cons c rest =>
      have hc := hbefore c List.mem_cons_self
      rw [hhead c rfl] at hc
      cases hc

theorem stripped_of_append {front after : List Char} (hfront : ∀ c ∈ front.head?, p c = false)
    (hlast : ∀ c ∈ front.getLast?, p c = false) (hafter : ∀ c ∈ after, p c = true) :
    Stripped p (front ++ after) front := by
  have h : Stripped p ([] ++ front ++ after) front := .intro nofun hafter hfront hlast
  exact h

theorem stripped_of_forall (h : ∀ c ∈ s, p c = false) : Stripped p s s := by
  have hself : Stripped p (s ++ []) s := stripped_of_append
    (fun c hc => h c (List.mem_of_mem_head? hc)) (fun c hc => h c (List.mem_of_getLast? hc)) nofun
  rwa [List.append_nil] at hself

theorem stripped_cons_iff {c : Char} (hc : p c = true) : Stripped p (c :: s) inner ↔ Stripped p s inner := by
  rw [stripped_iff, stripped_iff, List.dropWhile_cons_of_pos hc]

end Rail18.Text
