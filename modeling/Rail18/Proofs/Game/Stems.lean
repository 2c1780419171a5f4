import Mathlib.Data.List.Chain
import Rail18.Game.Title
import Rail18.Proofs.Text.Numerals

/-!
# Words and stems

The words of a text are what is left of it when every run of characters that are no part of a word has
become one underscore and the underscores at its ends are dropped. Such words, and digits joined with them,
are stems: no underscore is first, last or next to another. What digits do in front of a text depends on how
the text begins.
-/

namespace Rail18

open Text (Stripped)

/-- The characters that words are made of. -/
def IsWordChar (c : Char) : Prop := 'a' ≤ c ∧ c ≤ 'z' ∨ '0' ≤ c ∧ c ≤ '9'

instance (c : Char) : Decidable (IsWordChar c) :=
  inferInstanceAs (Decidable ('a' ≤ c ∧ c ≤ 'z' ∨ '0' ≤ c ∧ c ≤ '9'))

/-- A text with one underscore in the place of every run of other characters. -/
inductive Underscored : List Char → List Char → Prop
  | nil : Underscored [] []
  | keep {c : Char} {s t : List Char} : IsWordChar c → Underscored s t → Underscored (c :: s) (c :: t)
  | run {run s t : List Char} : run ≠ [] → (∀ c ∈ run, ¬ IsWordChar c) →
      (∀ c ∈ s.head?, IsWordChar c) → Underscored s t → Underscored (run ++ s) ('_' :: t)

/-- The words of a text: runs of other characters are underscored, and underscores at the ends dropped. -/
def WordsOf (s words : List Char) : Prop :=
  ∃ replaced, Underscored s replaced ∧ Stripped (· = '_') replaced words

/-- Digits and words with an underscore between them where there are both. -/
inductive Joined : (digits words stem : List Char) → Prop
  | digits (digits : List Char) : Joined digits [] digits
  | words (words : List Char) : Joined [] words words
  | both {digits words : List Char} : digits ≠ [] → words ≠ [] →
      Joined digits words (digits ++ '_' :: words)

/-- Words of the letters a to z and digits, joined by single underscores. -/
structure IsStem (s : List Char) : Prop where
  chars : ∀ c ∈ s, IsWordChar c ∨ c = '_'
  first : ∀ c ∈ s.head?, c ≠ '_'
  last : ∀ c ∈ s.getLast?, c ≠ '_'
  single : s.IsChain fun a b => a = '_' → b ≠ '_'

/-! ### Underscores -/

theorem isStemChar_iff {c : Char} : isStemChar c = true ↔ IsWordChar c := by
  simp [isStemChar, IsWordChar]

theorem IsWordChar.ne_underscore {c : Char} (h : IsWordChar c) : c ≠ '_' := by
  rintro rfl
  exact absurd h (by decide)

theorem isWordChar_of_isDigit {c : Char} (h : c.isDigit = true) : IsWordChar c :=
  .inr (Text.isDigit_iff.mp h)

section Underscored

variable {s t run : List Char}

theorem underscored_cons_of_word {c : Char} (hc : IsWordChar c) (inRun : Bool) (s : List Char) :
    underscored inRun (c :: s) = c :: underscored false s := by
  rw [underscored, if_pos (isStemChar_iff.mpr hc)]

theorem underscored_cons_of_not_word {c : Char} (hc : ¬ IsWordChar c) (inRun : Bool) (s : List Char) :
    underscored inRun (c :: s) = if inRun then underscored true s else '_' :: underscored true s := by
  rw [underscored, if_neg (isStemChar_iff.not.mpr hc)]

/-- Within a run, nothing is written until it ends. -/
theorem underscored_run (hrun : ∀ c ∈ run, ¬ IsWordChar c) (hs : ∀ c ∈ s.head?, IsWordChar c) :
    underscored true (run ++ s) = underscored false s := by
  induction run with
  | nil =>
      cases s with
      | nil => rfl
      | cons c rest =>
          have hc := hs c rfl
          rw [List.nil_append, underscored_cons_of_word hc, underscored_cons_of_word hc]
  | cons c rest ih =>
      rw [List.cons_append, underscored_cons_of_not_word (hrun c List.mem_cons_self), if_pos rfl]
      exact ih fun other hother => hrun other (List.mem_cons_of_mem c hother)

theorem Underscored.eq (h : Underscored s t) : underscored false s = t := by
  induction h with
  | nil => rfl
  | keep hc _ ih => rw [underscored_cons_of_word hc, ih]
  | @run run s t hne hrun hs _ ih =>
      obtain ⟨c, rest, rfl⟩ := List.exists_cons_of_ne_nil hne
      have hrest : ∀ other ∈ rest, ¬ IsWordChar other :=
        fun other hother => hrun other (List.mem_cons_of_mem c hother)
      rw [List.cons_append, underscored_cons_of_not_word (hrun c List.mem_cons_self),
        underscored_run hrest hs, ih]
      rfl

theorem Underscored.exists_cons {c : Char} (hc : ¬ IsWordChar c) (h : Underscored s t) :
    ∃ t', Underscored (c :: s) t' := by
  have hsingle : ∀ other ∈ [c], ¬ IsWordChar other := List.forall_mem_singleton.mpr hc
  cases h with
  | nil => exact ⟨_, .run (List.cons_ne_nil c []) hsingle nofun .nil⟩
  | @keep d s t hd hs =>
      have hhead : ∀ other ∈ (d :: s).head?, IsWordChar other := by
        rintro other ⟨⟩
        exact hd
      exact ⟨_, .run (List.cons_ne_nil c []) hsingle hhead (.keep hd hs)⟩
  | @run run s t hne hrun hs ht =>
      have hlonger : Underscored (c :: run ++ s) ('_' :: t) :=
        .run (List.cons_ne_nil c run) (List.forall_mem_cons.mpr ⟨hc, hrun⟩) hs ht
      exact ⟨_, hlonger⟩

theorem exists_underscored (s : List Char) : ∃ t, Underscored s t := by
  induction s with
  | nil => exact ⟨[], .nil⟩
  | cons c rest ih =>
      obtain ⟨t, ht⟩ := ih
      by_cases hc : IsWordChar c
      · exact ⟨c :: t, .keep hc ht⟩
      · exact ht.exists_cons hc

theorem underscored_iff : Underscored s t ↔ underscored false s = t := by
  constructor
  · exact Underscored.eq
  · rintro rfl
    obtain ⟨t, ht⟩ := exists_underscored s
    exact ht.eq.symm ▸ ht

theorem wordsOf_iff {words : List Char} :
    WordsOf s words ↔ trimUnderscores (underscored false s) = words := by
  simp only [WordsOf, underscored_iff, Text.stripped_iff, exists_eq_left']
  rfl

theorem WordsOf.unique {words other : List Char} (h : WordsOf s words) (hother : WordsOf s other) :
    words = other :=
  (wordsOf_iff.mp h).symm.trans (wordsOf_iff.mp hother)

/-! ### What underscoring leaves -/

theorem Underscored.mem_or (h : Underscored s t) : ∀ c ∈ t, IsWordChar c ∨ c = '_' := by
  induction h with
  | nil => exact nofun
  | keep hc _ ih => exact List.forall_mem_cons.mpr ⟨.inl hc, ih⟩
  | run _ _ _ _ ih => exact List.forall_mem_cons.mpr ⟨.inr rfl, ih⟩

theorem Underscored.mem_iff (h : Underscored s t) {c : Char} (hc : IsWordChar c) : c ∈ t ↔ c ∈ s := by
  induction h with
  | nil => rfl
  | keep _ _ ih => rw [List.mem_cons, List.mem_cons, ih]
  | run _ hrun _ _ ih =>
      rw [List.mem_cons, List.mem_append, ih]
      exact or_congr_left (iff_of_false hc.ne_underscore fun hmem => hrun c hmem hc)

/-- A text that begins with a word still does. -/
theorem Underscored.head (h : Underscored s t) (hs : ∀ c ∈ s.head?, IsWordChar c) :
    ∀ c ∈ t.head?, IsWordChar c := by
  cases h with
  | nil => exact hs
  | keep hc _ => exact hs
  | run hne hrun _ _ =>
      obtain ⟨c, rest, rfl⟩ := List.exists_cons_of_ne_nil hne
      exact absurd (hs c rfl) (hrun c List.mem_cons_self)

theorem Underscored.isChain (h : Underscored s t) : t.IsChain fun a b => a = '_' → b ≠ '_' := by
  induction h with
  | nil => exact .nil
  | keep hc _ ih => exact List.isChain_cons.mpr ⟨fun _ _ hsame => absurd hsame hc.ne_underscore, ih⟩
  | run _ _ hs ht ih =>
      exact List.isChain_cons.mpr ⟨fun c hc _ => (ht.head hs c hc).ne_underscore, ih⟩

theorem Underscored.words_append (h : Underscored s t) {front : List Char}
    (hfront : ∀ c ∈ front, IsWordChar c) : Underscored (front ++ s) (front ++ t) := by
  induction front with
  | nil => exact h
  | cons c rest ih =>
      exact .keep (hfront c List.mem_cons_self) (ih fun other hother =>
        hfront other (List.mem_cons_of_mem c hother))

end Underscored

/-! ### Stems -/

section IsStem

variable {s t digits words stem : List Char}

theorem isStem_of_digits (hdigits : ∀ c ∈ digits, c.isDigit = true) : IsStem digits := by
  have hne : ∀ c ∈ digits, c ≠ '_' := fun c hc => (isWordChar_of_isDigit (hdigits c hc)).ne_underscore
  refine ⟨fun c hc => .inl (isWordChar_of_isDigit (hdigits c hc)),
    fun c hc => hne c (List.mem_of_mem_head? hc), fun c hc => hne c (List.mem_of_getLast? hc), ?_⟩
  rw [List.isChain_iff_forall_rel_of_append_cons_cons]
  rintro a b before after rfl hsame
  exact absurd hsame (hne a (by simp))

theorem IsStem.append (hs : IsStem s) (ht : IsStem t) : IsStem (s ++ t) where
  chars := List.forall_mem_append.mpr ⟨hs.chars, ht.chars⟩
  first c hc := by
    rw [List.head?_append, Option.mem_def, Option.or_eq_some_iff] at hc
    rcases hc with hc | ⟨-, hc⟩
    · exact hs.first c hc
    · exact ht.first c hc
  last c hc := by
    rw [List.getLast?_append, Option.mem_def, Option.or_eq_some_iff] at hc
    rcases hc with hc | ⟨-, hc⟩
    · exact ht.last c hc
    · exact hs.last c hc
  single := List.isChain_append.mpr
    ⟨hs.single, ht.single, fun c hc _ _ hsame => absurd hsame (hs.last c hc)⟩

theorem IsStem.append_underscore (hs : IsStem s) (ht : IsStem t) (hs_ne : s ≠ []) (ht_ne : t ≠ []) :
    IsStem (s ++ '_' :: t) where
  chars := List.forall_mem_append.mpr ⟨hs.chars, List.forall_mem_cons.mpr ⟨.inr rfl, ht.chars⟩⟩
  first c hc := by
    rw [List.head?_append_of_ne_nil _ hs_ne] at hc
    exact hs.first c hc
  last c hc := by
    rw [List.getLast?_append_of_ne_nil _ (List.cons_ne_nil '_' t), List.getLast?_cons_of_ne_nil ht_ne] at hc
    exact ht.last c hc
  single := List.isChain_append.mpr ⟨hs.single,
    List.isChain_cons.mpr ⟨fun c hc _ => ht.first c hc, ht.single⟩,
    fun c hc _ _ hsame => absurd hsame (hs.last c hc)⟩

/-- Underscores after a stem are all that is dropped. -/
theorem IsStem.stripped (hs : IsStem s) {after : List Char} (hafter : ∀ c ∈ after, decide (c = '_') = true) :
    Stripped (· = '_') (s ++ after) s :=
  Text.stripped_of_append (fun c hc => decide_eq_false (hs.first c hc))
    (fun c hc => decide_eq_false (hs.last c hc)) hafter

theorem Joined.isStem (h : Joined digits words stem) (hdigits : IsStem digits) (hwords : IsStem words) :
    IsStem stem := by
  cases h with
  | digits => exact hdigits
  | words => exact hwords
  | both hdigits_ne hwords_ne => exact hdigits.append_underscore hwords hdigits_ne hwords_ne

end IsStem

/-! ### Digits joined with words -/

section Joined

variable {digits words stem : List Char}

theorem joined_iff : Joined digits words stem ↔ joinStem digits words = stem := by
  constructor
  · intro h
    cases h with
    | digits => rfl
    | words words => cases words <;> rfl
    | both hdigits hwords =>
        rw [joinStem, if_neg (by simpa using hwords), if_neg (by simpa using hdigits)]
  · rintro rfl
    by_cases hwords : words = []
    · rw [hwords]
      exact .digits digits
    by_cases hdigits : digits = []
    · rw [hdigits, joinStem, if_neg (by simpa using hwords)]
      exact .words words
    rw [joinStem, if_neg (by simpa using hwords), if_neg (by simpa using hdigits)]
    exact .both hdigits hwords

theorem Joined.ne_append (h : Joined digits words stem) (hdigits : digits ≠ []) (hwords : words ≠ []) :
    stem ≠ digits ++ words := by
  cases h with
  | digits => exact absurd rfl hwords
  | words => exact absurd rfl hdigits
  | both =>
      intro hsame
      have hlength := congrArg List.length (List.append_cancel_left hsame)
      simp at hlength

theorem Joined.eq_nil_iff (h : Joined digits words stem) : stem = [] ↔ digits = [] ∧ words = [] := by
  cases h with
  | digits => simp
  | words => simp
  | both hdigits hwords => simp [hdigits]

end Joined

/-! ### Words behind digits -/

section WordsOf

variable {s words digits stem : List Char}

theorem WordsOf.isStem (h : WordsOf s words) : IsStem words := by
  obtain ⟨replaced, hreplaced, hbefore, hafter, hhead, hlast⟩ := h
  rename_i before after
  have hmem : ∀ c ∈ words, IsWordChar c ∨ c = '_' := fun c hc =>
    hreplaced.mem_or c (List.mem_append_left after (List.mem_append_right before hc))
  exact ⟨hmem, fun c hc => of_decide_eq_false (hhead c hc), fun c hc => of_decide_eq_false (hlast c hc),
    hreplaced.isChain.left_of_append.right_of_append⟩

theorem WordsOf.mem_iff (h : WordsOf s words) {c : Char} (hc : IsWordChar c) : c ∈ words ↔ c ∈ s := by
  obtain ⟨replaced, hreplaced, hbefore, hafter, -, -⟩ := h
  rename_i before after
  have hnot {ends : List Char} (hends : ∀ other ∈ ends, decide (other = '_') = true) : c ∉ ends :=
    fun hmem => hc.ne_underscore (of_decide_eq_true (hends c hmem))
  rw [← hreplaced.mem_iff hc, List.mem_append, List.mem_append]
  simp [hnot hbefore, hnot hafter]

/-- A text has no words if it has none of the characters that words are made of. -/
theorem WordsOf.eq_nil_iff (h : WordsOf s words) : words = [] ↔ ∀ c ∈ s, ¬ IsWordChar c := by
  constructor
  · rintro rfl c hc hword
    exact List.not_mem_nil ((h.mem_iff hword).mpr hc)
  · intro hnone
    cases words with
    | nil => rfl
    | cons c rest =>
        have hword := (h.isStem.chars c List.mem_cons_self).resolve_right (h.isStem.first c rfl)
        exact absurd hword (hnone c ((h.mem_iff hword).mp List.mem_cons_self))

/-- Digits in front of a word run together with it. -/
theorem WordsOf.digits_append (h : WordsOf s words) (hdigits : ∀ c ∈ digits, c.isDigit = true)
    (hs : ∀ c ∈ s.head?, IsWordChar c) : WordsOf (digits ++ s) (digits ++ words) := by
  have hstem := (isStem_of_digits hdigits).append h.isStem
  obtain ⟨replaced, hreplaced, hstripped⟩ := h
  have hhead := hreplaced.head hs
  obtain ⟨after, rfl, hafter⟩ := hstripped.exists_append fun c hc => decide_eq_false (hhead c hc).ne_underscore
  refine ⟨_, hreplaced.words_append fun c hc => isWordChar_of_isDigit (hdigits c hc), ?_⟩
  rw [← List.append_assoc]
  exact hstem.stripped hafter

/-- Digits in front of another character are joined with the words that follow it. -/
theorem WordsOf.digits_append_of_other (h : WordsOf s words) (hdigits : ∀ c ∈ digits, c.isDigit = true)
    {c : Char} (hc : c ∈ s.head?) (hother : ¬ IsWordChar c) (hjoined : Joined digits words stem) :
    WordsOf (digits ++ s) stem := by
  have hstem := hjoined.isStem (isStem_of_digits hdigits) h.isStem
  obtain ⟨replaced, hreplaced, hstripped⟩ := h
  refine ⟨_, hreplaced.words_append fun c hc => isWordChar_of_isDigit (hdigits c hc), ?_⟩
  -- The text begins with a run, and the underscore in its place is the one that joins.
  cases hreplaced with
  | nil => cases hc
  | keep hkept => exact absurd (Option.some.inj hc ▸ hkept) hother
  | @run run s t _ _ hs ht =>
      rw [Text.stripped_cons_iff (decide_eq_true rfl)] at hstripped
      obtain ⟨after, rfl, hafter⟩ := hstripped.exists_append fun c hc =>
        decide_eq_false (ht.head hs c hc).ne_underscore
      cases hjoined with
      | digits => exact hstem.stripped (List.forall_mem_cons.mpr ⟨decide_eq_true rfl, hafter⟩)
      | words => exact (Text.stripped_cons_iff (decide_eq_true rfl)).mpr (hstem.stripped hafter)
      | both =>
          have hboth := hstem.stripped hafter
          rwa [List.append_assoc] at hboth

end WordsOf

end Rail18
