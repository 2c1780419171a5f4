import Mathlib.Data.List.Basic
import Rail18.Text.Case

/-!
# What changing the case keeps

Lowering a text neither empties it nor makes a space of anything else, and on the first 128 characters
both case mappings are those of the letters a to z.
-/

namespace Rail18.Text

/-! ### Single characters -/

/-- What is checked of the first codes holds of the characters with these codes. -/
@[elab_as_elim]
theorem of_codes {P : Char → Prop} (c : Char) {bound : Nat} (hc : c.toNat < bound)
    (hcodes : ∀ code < bound, P (Char.ofNat code)) : P c := by
  have h := hcodes c.toNat hc
  rwa [Char.ofNat_toNat] at h

/-- A mapped character is an expansion, a shifted character or the character itself. -/
theorem mapCase_cases (expansions : List (Nat × List Nat)) (shifts : List Shift) (c : Char) :
    (∃ codes, (c.toNat, codes) ∈ expansions ∧ mapCase expansions shifts c = codes.map Char.ofNat) ∨
      (∃ shift ∈ shifts, shift.first ≤ c.toNat ∧
        mapCase expansions shifts c = [Char.ofNat (c.toNat + shift.delta).toNat]) ∨
      mapCase expansions shifts c = [c] := by
  unfold mapCase
  cases hlookup : expansions.lookup c.toNat with
  | some codes =>
      obtain ⟨before, after, rfl, -⟩ := List.lookup_eq_some_iff.mp hlookup
      exact .inl ⟨codes, by simp, rfl⟩
  | none =>
      cases hfind : shifts.find? (·.covers c.toNat) with
      | none => exact .inr (.inr rfl)
      | some shift =>
          have hcovers := List.find?_some hfind
          simp only [Shift.covers, Bool.and_eq_true, decide_eq_true_eq] at hcovers
          exact .inr (.inl ⟨shift, List.mem_of_find?_eq_some hfind, hcovers.1.1, rfl⟩)

theorem lowerChar_ne_nil (c : Char) : lowerChar c ≠ [] := by
  have hcodes : ∀ entry ∈ lowerExpansions, entry.2 ≠ [] := by decide
  obtain ⟨codes, hmem, hmapped⟩ | ⟨shift, -, -, hmapped⟩ | hmapped :=
    mapCase_cases lowerExpansions lowerShifts c
  · rw [lowerChar, hmapped]
    exact fun hnil => hcodes _ hmem (List.map_eq_nil_iff.mp hnil)
  · rw [lowerChar, hmapped]
    exact List.cons_ne_nil _ _
  · rw [lowerChar, hmapped]
    exact List.cons_ne_nil _ _

theorem toNat_eq_of_ofNat_eq {n : Nat} {c : Char} (hc : c ≠ '\x00') (h : Char.ofNat n = c) : n = c.toNat := by
  subst h
  by_cases hvalid : n.isValidChar
  · rw [Char.ofNat, dif_pos hvalid]
    rfl
  · exact absurd (by rw [Char.ofNat, dif_neg hvalid]; rfl) hc

/-- No expansion has a character up to Z, and all shifts lead to characters after it. -/
theorem eq_of_mem_lowerChar {c d : Char} (h : d ∈ lowerChar c) (hnul : d ≠ '\x00') (hd : d.toNat ≤ 90) :
    d = c := by
  have hcodes : ∀ entry ∈ lowerExpansions, ∀ code ∈ entry.2, 90 < code := by decide
  have hshifts : ∀ shift ∈ lowerShifts, 90 < shift.first + shift.delta := by decide +kernel
  rw [lowerChar] at h
  obtain ⟨codes, hmem, hmapped⟩ | ⟨shift, hmem, hfirst, hmapped⟩ | hmapped :=
    mapCase_cases lowerExpansions lowerShifts c
  · rw [hmapped] at h
    obtain ⟨code, hcode, hchar⟩ := List.mem_map.mp h
    have hsame := toNat_eq_of_ofNat_eq hnul hchar
    have hpast := hcodes _ hmem code hcode
    omega
  · rw [hmapped] at h
    have hsame := toNat_eq_of_ofNat_eq hnul (List.mem_singleton.mp h).symm
    have hpast := hshifts shift hmem
    omega
  · rw [hmapped] at h
    exact List.mem_singleton.mp h

/-- Below 128 only the first run of shifted characters counts. -/
theorem mapCase_of_ascii {expansions : List (Nat × List Nat)} {letters : Shift} {shifts : List Shift}
    (hexpansions : ∀ entry ∈ expansions, 128 ≤ entry.1) (hshifts : ∀ shift ∈ shifts, 128 ≤ shift.first)
    {c : Char} (hc : c.toNat < 128) :
    mapCase expansions (letters :: shifts) c =
      if letters.covers c.toNat then [Char.ofNat (c.toNat + letters.delta).toNat] else [c] := by
  have hlookup : expansions.lookup c.toNat = none := by
    rw [List.lookup_eq_none_iff]
    intro entry hentry
    have := hexpansions entry hentry
    exact bne_iff_ne.mpr (by omega)
  have hfind : shifts.find? (·.covers c.toNat) = none := by
    rw [List.find?_eq_none]
    intro shift hshift hcovers
    simp only [Shift.covers, Bool.and_eq_true, decide_eq_true_eq] at hcovers
    have := hshifts shift hshift
    omega
  rw [mapCase, hlookup, List.find?_cons, hfind]
  by_cases hletter : letters.covers c.toNat
  · simp [hletter]
  · simp [hletter]

theorem lowerChar_of_ascii {c : Char} (hc : c.toNat < 128) : lowerChar c = [c.toLower] := by
  have hmapped : (if (⟨0x41, 0x5A, 1, 32⟩ : Shift).covers c.toNat then
      [Char.ofNat ((c.toNat : Int) + 32).toNat] else [c]) = [c.toLower] :=
    of_codes c hc (by decide +kernel)
  rw [← hmapped]
  exact mapCase_of_ascii (by decide) (by decide +kernel) hc

/-- A lowered form has no capital A to Z. -/
theorem isUpper_of_mem_lowerChar {c d : Char} (h : d ∈ lowerChar c) : d.isUpper = false := by
  by_contra hupper
  rw [Bool.not_eq_false] at hupper
  have hletter : 'A' ≤ d ∧ d ≤ 'Z' := of_decide_eq_true hupper
  have hhigh : d.toNat ≤ 90 := hletter.2
  have hnul : d ≠ '\x00' := by
    rintro rfl
    exact absurd hletter.1 (by decide)
  obtain rfl := eq_of_mem_lowerChar h hnul hhigh
  have hlowered : d.toLower = d → ¬ 'A' ≤ d := of_codes d (Nat.lt_succ_of_le hhigh) (by decide)
  rw [lowerChar_of_ascii (by omega), List.mem_singleton] at h
  exact hlowered h.symm hletter.1

theorem upperChar_of_ascii {c : Char} (hc : c.toNat < 128) : upperChar c = [c.toUpper] := by
  have hmapped : (if (⟨0x61, 0x7A, 1, -32⟩ : Shift).covers c.toNat then
      [Char.ofNat ((c.toNat : Int) + -32).toNat] else [c]) = [c.toUpper] :=
    of_codes c hc (by decide +kernel)
  rw [← hmapped]
  exact mapCase_of_ascii (by decide +kernel) (by decide +kernel) hc

/-! ### Texts -/

def IsAscii (s : List Char) : Prop := ∀ c ∈ s, c.toNat < 128

instance (s : List Char) : Decidable (IsAscii s) := inferInstanceAs (Decidable (∀ c ∈ s, c.toNat < 128))

theorem lowerAfter_eq_nil_iff {before s : List Char} : lowerAfter before s = [] ↔ s = [] := by
  cases s with
  | nil => simp [lowerAfter]
  | cons c rest =>
      rw [lowerAfter]
      by_cases hsigma : c = 'Σ'
      · simp [hsigma]
      · simp [hsigma, lowerChar_ne_nil]

/-- A lowered text has the lowered forms of its characters; only the two small sigmas depend on more. -/
theorem mem_lowerAfter {d : Char} (hsigma : d ≠ 'σ') (hfinal : d ≠ 'ς') (before s : List Char) :
    d ∈ lowerAfter before s ↔ ∃ c ∈ s, d ∈ lowerChar c := by
  induction s generalizing before with
  | nil => simp [lowerAfter]
  | cons c rest ih =>
      have hfirst : d ∈ (if c = 'Σ' then [if beginsCased before && !beginsCased rest then 'ς' else 'σ']
          else lowerChar c) ↔ d ∈ lowerChar c := by
        by_cases hc : c = 'Σ'
        · have hlone : lowerChar 'Σ' = ['σ'] := by decide +kernel
          rw [if_pos hc, hc, hlone, List.mem_singleton, List.mem_singleton]
          refine iff_of_false ?_ hsigma
          split <;> assumption
        · rw [if_neg hc]
      rw [lowerAfter, List.mem_append, hfirst, ih (c :: before), List.exists_mem_cons_iff]

theorem space_mem_lowerAfter (before s : List Char) : ' ' ∈ lowerAfter before s ↔ ' ' ∈ s := by
  rw [mem_lowerAfter (by decide) (by decide)]
  constructor
  · rintro ⟨c, hc, hspace⟩
    exact eq_of_mem_lowerChar hspace (by decide) (by decide) ▸ hc
  · intro hspace
    exact ⟨' ', hspace, by rw [lowerChar_of_ascii (by decide)]; exact List.mem_cons_self⟩

theorem lowerAfter_of_ascii {before s : List Char} (h : IsAscii s) :
    lowerAfter before s = s.map Char.toLower := by
  induction s generalizing before with
  | nil => rfl
  | cons c rest ih =>
      have hc : c.toNat < 128 := h c List.mem_cons_self
      have hsigma : c ≠ 'Σ' := by
        rintro rfl
        exact absurd hc (by decide)
      rw [lowerAfter, if_neg hsigma, lowerChar_of_ascii hc, ih fun other hother =>
        h other (List.mem_cons_of_mem c hother)]
      rfl

/-! ### Digits in front of a text -/

section Digits

variable {digits : List Char}

theorem of_isDigit {P : Char → Prop} (h : ∀ code ≤ 57, 48 ≤ code → P (Char.ofNat code)) {c : Char}
    (hc : c.isDigit = true) : P c := by
  rw [Char.isDigit, Bool.and_eq_true, decide_eq_true_eq, decide_eq_true_eq] at hc
  have hdigit := h c.toNat hc.2 hc.1
  rwa [Char.ofNat_toNat] at hdigit

theorem lowerChar_of_isDigit {c : Char} (h : c.isDigit = true) : c ≠ 'Σ' ∧ lowerChar c = [c] :=
  of_isDigit (P := fun c => c ≠ 'Σ' ∧ lowerChar c = [c]) (by decide +kernel) h

/-- A digit ends the search for a cased neighbour, and is none. -/
theorem isCased_of_isDigit {c : Char} (h : c.isDigit = true) :
    isCased c = false ∧ isCaseIgnorable c = false :=
  of_isDigit (P := fun c => isCased c = false ∧ isCaseIgnorable c = false) (by decide +kernel) h

theorem beginsCased_cons (c : Char) (s : List Char) :
    beginsCased (c :: s) = if isCaseIgnorable c then beginsCased s else isCased c := by
  by_cases hignorable : isCaseIgnorable c
  · simp [beginsCased, hignorable]
  · simp [beginsCased, hignorable]

theorem beginsCased_append_digits (hdigits : ∀ c ∈ digits, c.isDigit = true) (s : List Char) :
    beginsCased (s ++ digits) = beginsCased s := by
  induction s with
  | nil =>
      cases digits with
      | nil => rfl
      | cons c rest =>
          obtain ⟨hcased, hignorable⟩ := isCased_of_isDigit (hdigits c List.mem_cons_self)
          rw [List.nil_append, beginsCased_cons, hignorable, hcased]
          rfl
  | cons c rest ih => rw [List.cons_append, beginsCased_cons, beginsCased_cons, ih]

theorem lowerAfter_append_digits (hdigits : ∀ c ∈ digits, c.isDigit = true) (before s : List Char) :
    lowerAfter (before ++ digits) s = lowerAfter before s := by
  induction s generalizing before with
  | nil => rfl
  | cons c rest ih =>
      rw [lowerAfter, lowerAfter, beginsCased_append_digits hdigits, ← List.cons_append, ih]

theorem lowerAfter_digits (hdigits : ∀ c ∈ digits, c.isDigit = true) (before s : List Char) :
    lowerAfter before (digits ++ s) = digits ++ lowerAfter (digits.reverse ++ before) s := by
  induction digits generalizing before with
  | nil => rfl
  | cons c rest ih =>
      obtain ⟨hsigma, hlower⟩ := lowerChar_of_isDigit (hdigits c List.mem_cons_self)
      rw [List.cons_append, lowerAfter, if_neg hsigma, hlower,
        ih fun other hother => hdigits other (List.mem_cons_of_mem c hother), List.reverse_cons,
        List.append_assoc]
      rfl

/-- Digits in front of a text are lowered to themselves, and the text is lowered as it is alone. -/
theorem lowerChars_digits_append (hdigits : ∀ c ∈ digits, c.isDigit = true) (s : List Char) :
    lowerChars (digits ++ s) = digits ++ lowerChars s := by
  have hreverse : ∀ c ∈ digits.reverse, c.isDigit = true := fun c hc => hdigits c (List.mem_reverse.mp hc)
  have halone := lowerAfter_append_digits hreverse [] s
  rw [lowerChars, lowerAfter_digits hdigits, List.append_nil, ← List.nil_append digits.reverse, halone]
  rfl

end Digits

theorem toList_toLower (s : String) : s.toLower.toList = s.toList.map Char.toLower := String.toList_map

theorem toList_toUpper (s : String) : s.toUpper.toList = s.toList.map Char.toUpper := String.toList_map

theorem lower_of_ascii {s : String} (h : IsAscii s.toList) : lower s = s.toLower := by
  apply String.toList_injective
  rw [lower, String.toList_ofList, lowerChars, lowerAfter_of_ascii h, toList_toLower]

theorem upper_of_ascii {s : String} (h : IsAscii s.toList) : upper s = s.toUpper := by
  have hchars : s.toList.flatMap upperChar = s.toList.map Char.toUpper := by
    rw [List.map_eq_flatMap]
    exact List.flatMap_congr fun c hc => upperChar_of_ascii (h c hc)
  apply String.toList_injective
  rw [upper, String.toList_ofList, hchars, toList_toUpper]

theorem toLower_toUpper (c : Char) : c.toUpper.toLower = c.toLower := by
  by_cases hletter : 'a' ≤ c ∧ c ≤ 'z'
  · have hhigh : c.toNat ≤ 122 := hletter.2
    exact of_codes c (Nat.lt_succ_of_le hhigh) (by decide)
  · have hkept : c.toUpper = c := dif_neg hletter
    rw [hkept]

theorem toUpper_toLower (c : Char) : c.toLower.toUpper = c.toUpper := by
  by_cases hletter : 'A' ≤ c ∧ c ≤ 'Z'
  · have hhigh : c.toNat ≤ 90 := hletter.2
    exact of_codes c (Nat.lt_succ_of_le hhigh) (by decide)
  · have hkept : c.toLower = c := dif_neg hletter
    rw [hkept]

/-- Texts that differ in the case of letters a to z alone are the same in lower and in upper case. -/
theorem toUpper_eq_iff_toLower_eq {s t : String} : s.toUpper = t.toUpper ↔ s.toLower = t.toLower := by
  have hlower (s : String) : s.toUpper.toLower = s.toLower := by
    apply String.toList_injective
    rw [toList_toLower, toList_toUpper, toList_toLower, List.map_map]
    exact List.map_congr_left fun c _ => toLower_toUpper c
  have hupper (s : String) : s.toLower.toUpper = s.toUpper := by
    apply String.toList_injective
    rw [toList_toUpper, toList_toLower, toList_toUpper, List.map_map]
    exact List.map_congr_left fun c _ => toUpper_toLower c
  constructor
  · intro h
    rw [← hlower s, h, hlower]
  · intro h
    rw [← hupper s, h, hupper]

end Rail18.Text
