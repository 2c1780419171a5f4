import Rail18.Proofs.Game.Stems
import Rail18.Proofs.Text.Case

/-!
# File stems of titles

The rule for the file stem of a title: the digits that the title begins with, then the words of the rest,
and an underscore between them. Every title has one stem by that rule, and nearly every title gets it. A
title of several lines is taken as a whole, so its digits run together with a letter that follows them.
Whatever the title, its file stem is a stem.
-/

namespace Rail18

open Text (LeadingRun Stripped lowerChar lowerChars)

/-! ### The rule -/

/-- A title without the blanks at its ends is made of the digits that it begins with and a rest. -/
structure TitleParts (title digits rest words : List Char) : Prop where
  split : ∃ trimmed, Stripped Text.isBlank title trimmed ∧ LeadingRun Char.isDigit trimmed digits rest
  words : WordsOf (lowerChars rest) words

/-- The stem of a title by the rule. -/
def StemByRule (title stem : List Char) : Prop :=
  ∃ digits rest words, TitleParts title digits rest words ∧ Joined digits words stem

/-- The rest of a title goes over several lines, and follows the digits with a letter. -/
structure RunsTogether (digits rest : List Char) : Prop where
  lines : '\n' ∈ rest
  digits : digits ≠ []
  letter : ∃ c ∈ (lowerChars rest).head?, IsWordChar c

/-! ### The stem that a title gets -/

section Title

variable {title digits rest words stem : List Char}

theorem wordsOf_lowerChars_iff :
    WordsOf (lowerChars rest) words ↔ stemWords rest = words := by
  rw [stemWords, wordsOf_iff]

theorem titleParts_iff : TitleParts title digits rest words ↔
    (Text.trim title).takeWhile Char.isDigit = digits ∧ (Text.trim title).dropWhile Char.isDigit = rest ∧
      stemWords rest = words := by
  rw [← wordsOf_lowerChars_iff]
  constructor
  · rintro ⟨⟨trimmed, hstripped, hrun⟩, hwords⟩
    rw [hstripped.trim_eq]
    exact ⟨hrun.takeWhile_eq, hrun.dropWhile_eq, hwords⟩
  · rintro ⟨hdigits, hrest, hwords⟩
    exact ⟨⟨_, Text.stripped_isBlank_iff.mpr rfl, Text.leadingRun_iff.mpr ⟨hdigits, hrest⟩⟩, hwords⟩

theorem exists_titleParts (title : List Char) : ∃ digits rest words, TitleParts title digits rest words :=
  ⟨_, _, _, titleParts_iff.mpr ⟨rfl, rfl, rfl⟩⟩

theorem TitleParts.stemByRule_iff (h : TitleParts title digits rest words) :
    StemByRule title stem ↔ Joined digits words stem := by
  constructor
  · rintro ⟨_, _, _, hother, hjoined⟩
    obtain ⟨rfl, rfl, rfl⟩ := titleParts_iff.mp h
    obtain ⟨rfl, rfl, rfl⟩ := titleParts_iff.mp hother
    exact hjoined
  · intro hjoined
    exact ⟨digits, rest, words, h, hjoined⟩

theorem TitleParts.isDigit (h : TitleParts title digits rest words) : ∀ c ∈ digits, c.isDigit = true := by
  obtain ⟨trimmed, -, hrun⟩ := h.split
  exact hrun.all

theorem TitleParts.trim_eq (h : TitleParts title digits rest words) : Text.trim title = digits ++ rest := by
  obtain ⟨trimmed, hstripped, hrun⟩ := h.split
  rw [hstripped.trim_eq, hrun.eq_append]

theorem TitleParts.line_mem_iff (h : TitleParts title digits rest words) :
    '\n' ∈ Text.trim title ↔ '\n' ∈ rest := by
  have hline : '\n' ∉ digits := fun hmem => absurd (h.isDigit _ hmem) (by decide)
  rw [h.trim_eq, List.mem_append, or_iff_right hline]

theorem fileStem_of_one_line (h : TitleParts title digits rest words) (hlines : '\n' ∉ rest) :
    Joined digits words (fileStem title) := by
  have hline : '\n' ∉ Text.trim title := h.line_mem_iff.not.mpr hlines
  obtain ⟨hdigits, hrest, hwords⟩ := titleParts_iff.mp h
  rw [joined_iff, fileStem, splitTitle, if_neg (by simpa using hline), hdigits, hrest, ← hwords]

/-- A title of several lines is not split, so that its digits are part of its words. -/
theorem fileStem_of_lines (h : TitleParts title digits rest words) (hlines : '\n' ∈ rest) :
    WordsOf (digits ++ lowerChars rest) (fileStem title) := by
  have hline : '\n' ∈ Text.trim title := h.line_mem_iff.mpr hlines
  rw [← Text.lowerChars_digits_append h.isDigit, ← h.trim_eq, wordsOf_iff, fileStem, splitTitle,
    if_pos (by simpa using hline)]
  exact (joined_iff.mp (.words _)).symm

/-- The stem of a title has the digits and the words of the title, and the underscore between them is
missing only if they run together. -/
theorem fileStem_cases (h : TitleParts title digits rest words) :
    RunsTogether digits rest ∧ fileStem title = digits ++ words ∨
      ¬ RunsTogether digits rest ∧ Joined digits words (fileStem title) := by
  by_cases hlines : '\n' ∈ rest
  · have hwords := h.words
    have hstem := fileStem_of_lines h hlines
    cases hlower : lowerChars rest with
    | nil =>
        rw [lowerChars, Text.lowerAfter_eq_nil_iff] at hlower
        exact absurd (hlower ▸ hlines) List.not_mem_nil
    | cons c tail =>
        have hletter : (∃ first ∈ (lowerChars rest).head?, IsWordChar first) ↔ IsWordChar c := by
          simp [hlower]
        rw [hlower] at hwords hstem
        by_cases hc : IsWordChar c
        · have htogether := hstem.unique (hwords.digits_append h.isDigit (by simpa using hc))
          by_cases hdigits : digits = []
          · refine .inr ⟨fun htogether => htogether.digits hdigits, ?_⟩
            rw [htogether, hdigits]
            exact .words words
          · exact .inl ⟨⟨hlines, hdigits, hletter.mpr hc⟩, htogether⟩
        · have hjoined : Joined digits words (joinStem digits words) := joined_iff.mpr rfl
          have happart := hstem.unique (hwords.digits_append_of_other h.isDigit rfl hc hjoined)
          exact .inr ⟨fun htogether => hc (hletter.mp htogether.letter), happart ▸ hjoined⟩
  · exact .inr ⟨fun htogether => hlines htogether.lines, fileStem_of_one_line h hlines⟩

/-- Every title has one stem by the rule, and gets it exactly if its digits do not run together with a letter
on the first of several lines. Where they do, only the underscore between the digits and the words is missing. -/
theorem filename_by_rule (title : String) :
    (∃! stem, StemByRule title.toList stem) ∧
    ∀ digits rest words, TitleParts title.toList digits rest words →
      (StemByRule title.toList (filename title).toList ↔ ¬ RunsTogether digits rest) ∧
      (RunsTogether digits rest → (filename title).toList = digits ++ words) := by
  refine ⟨?_, fun digits rest words hparts => ?_⟩
  · obtain ⟨digits, rest, words, hparts⟩ := exists_titleParts title.toList
    simp only [hparts.stemByRule_iff, joined_iff]
    exact ⟨_, rfl, fun stem hstem => hstem.symm⟩
  · rw [filename, String.toList_ofList, hparts.stemByRule_iff]
    rcases fileStem_cases hparts with ⟨htogether, hstem⟩ | ⟨hapart, hjoined⟩
    · have hwords : words ≠ [] := by
        obtain ⟨c, hc, hletter⟩ := htogether.letter
        exact fun hnil => hparts.words.eq_nil_iff.mp hnil c (List.mem_of_mem_head? hc) hletter
      exact ⟨iff_of_false (fun hjoined => hjoined.ne_append htogether.digits hwords hstem)
        (not_not.mpr htogether), fun _ => hstem⟩
    · exact ⟨iff_of_true hjoined hapart, fun htogether => absurd htogether hapart⟩

/-- The rule holds where a line break follows the digits, and fails where a letter does. -/
theorem filename_by_rule_twoLines :
    (TitleParts "18\nEast".toList "18".toList "\nEast".toList "east".toList ∧
      StemByRule "18\nEast".toList (filename "18\nEast").toList) ∧
    TitleParts "18A\nB".toList "18".toList "A\nB".toList "a_b".toList ∧
      (filename "18A\nB").toList = "18".toList ++ "a_b".toList := by
  have heast : TitleParts "18\nEast".toList "18".toList "\nEast".toList "east".toList :=
    titleParts_iff.mpr (by decide +kernel)
  have hbroken : TitleParts "18A\nB".toList "18".toList "A\nB".toList "a_b".toList :=
    titleParts_iff.mpr (by decide +kernel)
  have hapart : ¬ RunsTogether "18".toList "\nEast".toList := by
    rintro ⟨-, -, c, hc, hletter⟩
    obtain rfl : c = '\n' := by
      have hhead : (lowerChars "\nEast".toList).head? = some '\n' := by decide +kernel
      exact (Option.some.inj (hhead.symm.trans hc)).symm
    exact absurd hletter (by decide)
  have htogether : RunsTogether "18".toList "A\nB".toList :=
    ⟨by decide, by decide, 'a', by decide +kernel, .inl (by decide)⟩
  have hfollows := ((filename_by_rule "18\nEast").2 _ _ _ heast).1.mpr hapart
  have hglued := ((filename_by_rule "18A\nB").2 _ _ _ hbroken).2 htogether
  exact ⟨⟨heast, hfollows⟩, hbroken, hglued⟩

/-- A line break after a letter makes the underscore behind the digits disappear. -/
theorem not_stemByRule_brokenLine :
    filename "18A\nB" = "18a_b" ∧ StemByRule "18A\nB".toList "18_a_b".toList ∧
      ¬ StemByRule "18A\nB".toList (filename "18A\nB").toList := by
  have hparts : TitleParts "18A\nB".toList "18".toList "A\nB".toList "a_b".toList :=
    titleParts_iff.mpr (by decide +kernel)
  have hfile : filename "18A\nB" = "18a_b" := by decide +kernel
  rw [hfile, hparts.stemByRule_iff, hparts.stemByRule_iff, joined_iff, joined_iff]
  decide

/-! ### The shape of a stem -/

theorem isAlphanum_of_mem_lowerChar {c d : Char} (h : d ∈ lowerChar c) :
    d.isAlphanum = false ↔ ¬ IsWordChar d := by
  have hlower : d.isLower = true ↔ 'a' ≤ d ∧ d ≤ 'z' := by
    change (decide ('a' ≤ d) && decide (d ≤ 'z')) = true ↔ _
    rw [Bool.and_eq_true, decide_eq_true_eq, decide_eq_true_eq]
  have hword : d.isAlphanum = true ↔ IsWordChar d := by
    change (d.isUpper || d.isLower || d.isDigit) = true ↔ _
    rw [Text.isUpper_of_mem_lowerChar h, Bool.false_or, Bool.or_eq_true, hlower, Text.isDigit_iff, IsWordChar]
  rw [← hword, Bool.not_eq_true]

/-- Only the lowered forms of single characters matter, since a sigma is no part of a word. -/
theorem mem_lowerChars_of_word {d : Char} (hd : IsWordChar d) (s : List Char) :
    d ∈ lowerChars s ↔ ∃ c ∈ s, d ∈ lowerChar c := by
  refine Text.mem_lowerAfter ?_ ?_ [] s
  · rintro rfl
    exact absurd hd (by decide)
  · rintro rfl
    exact absurd hd (by decide)

theorem WordsOf.eq_nil_iff_of_lowerChars (h : WordsOf (lowerChars rest) words) :
    words = [] ↔ ∀ c ∈ rest, ∀ d ∈ lowerChar c, d.isAlphanum = false := by
  rw [h.eq_nil_iff]
  constructor
  · intro hnone c hc d hd
    rw [isAlphanum_of_mem_lowerChar hd]
    exact fun hword => hnone d ((mem_lowerChars_of_word hword rest).mpr ⟨c, hc, hd⟩) hword
  · intro hnone d hd hword
    obtain ⟨c, hc, hlowered⟩ := (mem_lowerChars_of_word hword rest).mp hd
    exact (isAlphanum_of_mem_lowerChar hlowered).mp (hnone c hc d hlowered) hword

theorem eq_nil_iff_of_digits (hdigits : ∀ c ∈ digits, c.isDigit = true) :
    digits = [] ↔ ∀ c ∈ digits, ∀ d ∈ lowerChar c, d.isAlphanum = false := by
  constructor
  · rintro rfl
    exact nofun
  · intro hnone
    rw [List.eq_nil_iff_forall_not_mem]
    intro c hc
    have hself : c ∈ lowerChar c := by
      rw [(Text.lowerChar_of_isDigit (hdigits c hc)).2]
      exact List.mem_cons_self
    exact (isAlphanum_of_mem_lowerChar hself).mp (hnone c hc c hself) (isWordChar_of_isDigit (hdigits c hc))

/-- The stem of a title, whatever lines and characters the title has, is made of words joined by single
underscores. It is empty exactly if no character of the title is, or becomes in lower case, a letter a to z
or a digit. -/
theorem filename_isStem (title : String) :
    IsStem (filename title).toList ∧
      ∃ trimmed, Stripped Text.isBlank title.toList trimmed ∧
        (filename title = "" ↔ ∀ c ∈ trimmed, ∀ d ∈ lowerChar c, d.isAlphanum = false) := by
  obtain ⟨digits, rest, words, hparts⟩ := exists_titleParts title.toList
  obtain ⟨trimmed, hstripped, hrun⟩ := hparts.split
  have hdigits := isStem_of_digits hparts.isDigit
  have hwords := hparts.words.isStem
  have hempty : (∀ c ∈ trimmed, ∀ d ∈ lowerChar c, d.isAlphanum = false) ↔ digits = [] ∧ words = [] := by
    rw [hrun.eq_append, List.forall_mem_append, eq_nil_iff_of_digits hparts.isDigit,
      hparts.words.eq_nil_iff_of_lowerChars]
  have hnil : filename title = "" ↔ fileStem title.toList = [] := by
    rw [← String.toList_eq_nil_iff, filename, String.toList_ofList]
  have hstem : IsStem (fileStem title.toList) ∧ (fileStem title.toList = [] ↔ digits = [] ∧ words = []) := by
    rcases fileStem_cases hparts with ⟨-, htogether⟩ | ⟨-, hjoined⟩
    · rw [htogether]
      exact ⟨hdigits.append hwords, List.append_eq_nil_iff⟩
    · exact ⟨hjoined.isStem hdigits hwords, hjoined.eq_nil_iff⟩
  refine ⟨?_, trimmed, hstripped, ?_⟩
  · rw [filename, String.toList_ofList]
    exact hstem.1
  · rw [hnil, hempty]
    exact hstem.2

/-- Lower case may bring in letters, and a character that is none. -/
example : filename "İ\u212A" = "i_k" := by decide +kernel

end Title

end Rail18
