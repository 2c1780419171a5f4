import Mathlib.Data.List.Basic
import Rail18.Text.Split

/-!
# Reading joined texts back

Texts that are joined by a character which none of them has can be told apart again, and so can lists
that follow one another when the items of each are marked with the list they belong to.
-/

namespace Rail18.Text

/-! ### Characters that a text does not have -/

def Avoids (marks : List Char) (s : String) : Prop := ∀ c ∈ marks, c ∉ s.toList

instance (marks : List Char) (s : String) : Decidable (Avoids marks s) :=
  inferInstanceAs (Decidable (∀ c ∈ marks, c ∉ s.toList))

section Avoids

variable {marks fewer : List Char} {s t : String}

theorem Avoids.mono (h : Avoids marks s) (hfewer : fewer ⊆ marks) : Avoids fewer s :=
  fun c hc => h c (hfewer hc)

theorem Avoids.append (hs : Avoids marks s) (ht : Avoids marks t) : Avoids marks (s ++ t) := by
  intro c hc hmem
  rw [String.toList_append, List.mem_append] at hmem
  exact hmem.elim (hs c hc) (ht c hc)

theorem Avoids.intercalate {texts : List String} (hs : Avoids marks s)
    (htexts : ∀ text ∈ texts, Avoids marks text) : Avoids marks (s.intercalate texts) := by
  induction texts with
  | nil =>
      intro c hc
      simp
  | cons first rest ih =>
      have hfirst := htexts first List.mem_cons_self
      have hrest := ih fun text htext => htexts text (List.mem_cons_of_mem first htext)
      cases rest with
      | nil => rwa [String.intercalate_singleton]
      | cons second rest =>
          rw [String.intercalate_cons_cons]
          exact (hfirst.append hs).append hrest

theorem avoids_toString_natural (hmarks : ∀ c ∈ marks, ¬ c.isDigit) (n : Nat) :
    Avoids marks (toString n) := by
  intro c hc hmem
  rw [Nat.toString_eq_repr, Nat.toList_repr] at hmem
  exact hmarks c hc (Nat.isDigit_of_mem_toDigits (by decide) (by decide) hmem)

theorem avoids_toString_integer (hmarks : ∀ c ∈ marks, ¬ c.isDigit ∧ c ≠ '-') (n : Int) :
    Avoids marks (toString n) := by
  have hdigits (n : Nat) : Avoids marks n.repr :=
    avoids_toString_natural (fun c hc => (hmarks c hc).1) n
  have hminus : Avoids marks "-" := by
    intro c hc hmem
    exact (hmarks c hc).2 (List.mem_singleton.mp hmem)
  rw [Int.toString_eq_repr, Int.repr_eq_if]
  by_cases hnonneg : 0 ≤ n
  · rw [if_pos hnonneg]
    exact hdigits _
  · rw [if_neg hnonneg]
    exact hminus.append (hdigits _)

end Avoids

/-! ### Lists that follow one another -/

/-- Texts joined by a character that none of them has are told by what they are joined to. -/
theorem intercalate_injective (separator : String) {c : Char} (hseparator : separator.toList = [c])
    {l m : List String} (hl : ∀ s ∈ l, c ∉ s.toList) (hm : ∀ s ∈ m, c ∉ s.toList)
    (hnil : l = [] ↔ m = []) (h : separator.intercalate l = separator.intercalate m) : l = m := by
  by_cases hempty : l = []
  · rw [hempty, hnil.mp hempty]
  · have hsplit (texts : List String) (havoid : ∀ s ∈ texts, c ∉ s.toList) (hne : texts ≠ []) :
        (separator.intercalate texts).toList.splitOn c = texts.map String.toList := by
      rw [String.toList_intercalate, hseparator]
      refine List.splitOn_intercalate c ?_ (by simpa using hne)
      intro chars hchars
      obtain ⟨s, hs, rfl⟩ := List.mem_map.mp hchars
      exact havoid s hs
    apply List.map_injective_iff.mpr fun _ _ => String.toList_injective
    rw [← hsplit l hl hempty, ← hsplit m hm (fun hm => hempty (hnil.mpr hm)), h]

theorem exists_intercalate_cons_eq (separator first : String) (rest : List String) :
    ∃ tail, separator.intercalate (first :: rest) = first ++ tail := by
  cases rest with
  | nil => exact ⟨"", by rw [String.intercalate_singleton, String.append_empty]⟩
  | cons second rest =>
      exact ⟨_, by rw [String.intercalate_cons_cons, String.append_assoc]⟩

theorem map_eq_map_injective {α β : Type} {f : α → β} {l m : List α}
    (hf : ∀ a ∈ l, ∀ b ∈ m, f a = f b → a = b) (h : l.map f = m.map f) : l = m := by
  induction l generalizing m with
  | nil => exact (List.map_eq_nil_iff.mp h.symm).symm
  | cons a l ih =>
      cases m with
      | nil => cases h
      | cons b m =>
          rw [List.map_cons, List.map_cons, List.cons.injEq] at h
          have hhead := hf a List.mem_cons_self b List.mem_cons_self h.1
          have htail := ih (fun x hx y hy =>
            hf x (List.mem_cons_of_mem a hx) y (List.mem_cons_of_mem b hy)) h.2
          rw [hhead, htail]

theorem mem_toList_map {α β : Type} {f : α → β} {a : Option α} {y : β} (h : y ∈ (a.map f).toList) :
    ∃ x ∈ a, f x = y :=
  Option.map_eq_some_iff.mp (Option.mem_toList.mp h)

theorem toList_map_injective {α β : Type} {f : α → β} {a b : Option α}
    (hf : ∀ x ∈ a, ∀ y ∈ b, f x = f y → x = y) (h : (a.map f).toList = (b.map f).toList) : a = b := by
  cases a with
  | none =>
      cases b with
      | none => rfl
      | some y => cases h
  | some x =>
      cases b with
      | none => cases h
      | some y => rw [hf x rfl y rfl (List.singleton_inj.mp h)]

/-- Of blocks that follow one another, each consists of the items that are marked with it. -/
theorem filter_flatMap_mark {α κ : Type} [DecidableEq κ] (mark : α → κ) {block : κ → List α}
    (hblock : ∀ key, ∀ item ∈ block key, mark item = key) {keys : List κ} (hkeys : keys.Nodup)
    {key : κ} (hkey : key ∈ keys) :
    (keys.flatMap block).filter (mark · = key) = block key := by
  induction keys with
  | nil => cases hkey
  | cons first rest ih =>
      obtain ⟨hfirst, hrest⟩ := List.nodup_cons.mp hkeys
      have hown (other : κ) : (block other).filter (mark · = key) =
          if other = key then block other else [] := by
        by_cases hsame : other = key
        · rw [if_pos hsame, List.filter_eq_self]
          exact fun item hitem => decide_eq_true ((hblock other item hitem).trans hsame)
        · rw [if_neg hsame, List.filter_eq_nil_iff]
          intro item hitem hmark
          exact hsame ((hblock other item hitem).symm.trans (of_decide_eq_true hmark))
      rw [List.flatMap_cons, List.filter_append, hown]
      rcases List.mem_cons.mp hkey with rfl | hkey
      · have hothers : (rest.flatMap block).filter (mark · = key) = [] := by
          rw [List.filter_eq_nil_iff]
          intro item hitem hmark
          obtain ⟨other, hother, hitem⟩ := List.mem_flatMap.mp hitem
          have hsame := (hblock other item hitem).symm.trans (of_decide_eq_true hmark)
          exact hfirst (hsame ▸ hother)
        rw [if_pos rfl, hothers, List.append_nil]
      · have hne : first ≠ key := by
          rintro rfl
          exact hfirst hkey
        rw [if_neg hne, List.nil_append, ih hrest hkey]

/-- Blocks that follow one another are told by what they make together, if all items are marked. -/
theorem flatMap_mark_injective {α κ : Type} [DecidableEq κ] (mark : α → κ) {a b : κ → List α}
    (ha : ∀ key, ∀ item ∈ a key, mark item = key) (hb : ∀ key, ∀ item ∈ b key, mark item = key)
    {keys : List κ} (hkeys : keys.Nodup) (h : keys.flatMap a = keys.flatMap b) :
    ∀ key ∈ keys, a key = b key := by
  intro key hkey
  rw [← filter_flatMap_mark mark ha hkeys hkey, h, filter_flatMap_mark mark hb hkeys hkey]

/-! ### Splitting at a character -/

theorem splitAt_cons {mark c : Char} {s first : List Char} {parts : List (List Char)}
    (h : splitAt mark s = first :: parts) :
    splitAt mark (c :: s) = if c = mark then [] :: first :: parts else (c :: first) :: parts := by
  rw [splitAt, h]

theorem exists_splitAt_eq_cons (mark : Char) (s : List Char) :
    ∃ first parts, splitAt mark s = first :: parts := by
  induction s with
  | nil => exact ⟨[], [], rfl⟩
  | cons c rest ih =>
      obtain ⟨first, parts, hrest⟩ := ih
      rw [splitAt_cons hrest]
      by_cases hmark : c = mark
      · exact ⟨_, _, if_pos hmark⟩
      · exact ⟨_, _, if_neg hmark⟩

theorem splitAt_eq_splitOn (mark : Char) (s : List Char) : splitAt mark s = s.splitOn mark := by
  induction s with
  | nil => rfl
  | cons c rest ih =>
      obtain ⟨first, parts, hrest⟩ := exists_splitAt_eq_cons mark rest
      have hcons : (c :: rest).splitOn mark =
          if c = mark then [] :: rest.splitOn mark else (rest.splitOn mark).modifyHead (List.cons c) := by
        simp [List.splitOn, List.splitOnP_cons_eq_if_modifyHead]
      rw [splitAt_cons hrest, hcons, ← ih, hrest]
      rfl

theorem not_mem_of_mem_splitAt {mark : Char} {s part : List Char} (h : part ∈ splitAt mark s) :
    mark ∉ part := by
  induction s generalizing part with
  | nil =>
      obtain rfl := List.mem_singleton.mp h
      exact List.not_mem_nil
  | cons c rest ih =>
      obtain ⟨first, parts, hrest⟩ := exists_splitAt_eq_cons mark rest
      rw [splitAt_cons hrest] at h
      rw [hrest] at ih
      by_cases hmark : c = mark
      · rw [if_pos hmark] at h
        rcases List.mem_cons.mp h with rfl | h
        · exact List.not_mem_nil
        · exact ih h
      · rw [if_neg hmark] at h
        rcases List.mem_cons.mp h with rfl | h
        · intro hmem
          rcases List.mem_cons.mp hmem with rfl | hmem
          · exact hmark rfl
          · exact ih List.mem_cons_self hmem
        · exact ih (List.mem_cons_of_mem first h)

/-- Joined parts are found again exactly if none of them has the character they are joined by. -/
theorem splitAt_intercalate_eq_iff {mark : Char} {parts : List (List Char)} (hne : parts ≠ []) :
    splitAt mark ([mark].intercalate parts) = parts ↔ ∀ part ∈ parts, mark ∉ part := by
  constructor
  · intro h part hpart
    exact not_mem_of_mem_splitAt (h.symm ▸ hpart)
  · intro havoid
    rw [splitAt_eq_splitOn]
    exact List.splitOn_intercalate mark havoid hne

theorem splitAt_of_not_mem {mark : Char} {s : List Char} (h : mark ∉ s) : splitAt mark s = [s] := by
  have hjoined : [mark].intercalate [s] = s := List.intercalate_singleton
  have hsplit := (splitAt_intercalate_eq_iff (List.cons_ne_nil s [])).mpr (List.forall_mem_singleton.mpr h)
  rwa [hjoined] at hsplit

theorem splitAt_append_mark (mark : Char) (s t : List Char) :
    splitAt mark (s ++ mark :: t) = splitAt mark s ++ splitAt mark t := by
  induction s with
  | nil =>
      obtain ⟨first, parts, hrest⟩ := exists_splitAt_eq_cons mark t
      rw [List.nil_append, splitAt_cons hrest, if_pos rfl, hrest]
      rfl
  | cons c rest ih =>
      obtain ⟨first, parts, hrest⟩ := exists_splitAt_eq_cons mark rest
      rw [hrest, List.cons_append] at ih
      rw [List.cons_append, splitAt_cons ih, splitAt_cons hrest]
      split <;> rfl

/-- The parts of a text between its spaces, none if the text is empty. -/
def words (s : String) : List String :=
  if s = "" then [] else (splitAt ' ' s.toList).map String.ofList

theorem map_ofList_eq_iff {parts : List (List Char)} {texts : List String} :
    parts.map String.ofList = texts ↔ parts = texts.map String.toList := by
  constructor
  · rintro rfl
    rw [List.map_map]
    exact (List.map_id'' (fun _ => String.toList_ofList) parts).symm
  · rintro rfl
    rw [List.map_map]
    exact List.map_id'' (fun _ => String.ofList_toList) texts

/-- Texts are found again as words exactly if each of them is one. -/
theorem words_intercalate_iff {texts : List String} :
    (words (" ".intercalate texts) = texts ∧ ∀ text ∈ texts, text ≠ "") ↔
      ∀ text ∈ texts, ' ' ∉ text.toList ∧ text ≠ "" := by
  by_cases hnil : texts = []
  · rw [hnil, words, if_pos (String.intercalate_nil ..)]
    simp
  have hparts : texts.map String.toList ≠ [] := List.map_eq_nil_iff.not.mpr hnil
  have hjoined : (" ".intercalate texts).toList = [' '].intercalate (texts.map String.toList) :=
    String.toList_intercalate
  have hsplit : splitAt ' ' (" ".intercalate texts).toList = texts.map String.toList ↔
      ∀ text ∈ texts, ' ' ∉ text.toList := by
    rw [hjoined, splitAt_intercalate_eq_iff hparts, List.forall_mem_map]
  by_cases hempty : " ".intercalate texts = ""
  · -- Only a list of one empty text is joined to nothing, and its text is no word.
    refine iff_of_false ?_ fun h => ?_
    · rintro ⟨hwords, -⟩
      rw [words, if_pos hempty] at hwords
      exact hnil hwords.symm
    · have hone := hsplit.mpr fun text htext => (h text htext).1
      rw [hempty] at hone
      have htext : "" ∈ texts := (List.mem_map_of_injective fun _ _ => String.toList_injective).mp
        (hone ▸ List.mem_cons_self)
      exact (h "" htext).2 rfl
  · have hwords : words (" ".intercalate texts) = texts ↔
        splitAt ' ' (" ".intercalate texts).toList = texts.map String.toList := by
      rw [words, if_neg hempty, map_ofList_eq_iff]
    rw [hwords, hsplit, ← forall₂_and]

end Rail18.Text
