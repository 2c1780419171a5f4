import Mathlib.Data.List.Induction
import Mathlib.Data.Nat.Digits.Defs
import Rail18.Proofs.Text.Runs
import Rail18.Text.Blank
import Rail18.Text.Integer

/-!
# Written numbers

What a text of digits denotes is said by the places of its digits, and what is left of a text without the
blanks at its ends by the parts that the text is made of. Both say of every text what readers find in it, and
a number is found again in the text that it is printed as.
-/

namespace Rail18.Text

/-! ### Digits and signs -/

/-- A text of ASCII digits denotes a number: the last digit counts units, the one before it tens. -/
structure Denotes (s : List Char) (n : Nat) : Prop where
  ne_nil : s ≠ []
  digits : ∀ c ∈ s, '0' ≤ c ∧ c ≤ '9'
  value : Nat.ofDigits 10 (s.reverse.map fun c => c.toNat - '0'.toNat) = n

/-- A natural number is written with or without a plus sign. -/
inductive WritesNatural : List Char → Nat → Prop
  | unsigned {s : List Char} {n : Nat} : Denotes s n → WritesNatural s n
  | plus {s : List Char} {n : Nat} : Denotes s n → WritesNatural ('+' :: s) n

/-- An integer is written as a natural number is, or with a minus sign. -/
inductive WritesInteger : List Char → Int → Prop
  | natural {s : List Char} {n : Nat} : WritesNatural s n → WritesInteger s n
  | minus {s : List Char} {n : Nat} : Denotes s n → WritesInteger ('-' :: s) (-n)

section Numerals

variable {s : List Char} {n : Nat}

theorem isDigit_iff {c : Char} : c.isDigit = true ↔ '0' ≤ c ∧ c ≤ '9' := by
  rw [Char.isDigit, Bool.and_eq_true, decide_eq_true_eq, decide_eq_true_eq]
  rfl

theorem ofDigitChars_eq_ofDigits (s : List Char) :
    Nat.ofDigitChars 10 s 0 = Nat.ofDigits 10 (s.reverse.map fun c => c.toNat - '0'.toNat) := by
  induction s using List.reverseRecOn with
  | nil => rfl
  | append_singleton s c ih =>
      rw [Nat.ofDigitChars_append, ih, Nat.ofDigitChars_cons, Nat.ofDigitChars_nil, List.reverse_concat,
        List.map_cons, Nat.ofDigits_cons, Nat.add_comm]

theorem digits?_eq_some : digits? s = some n ↔ Denotes s n := by
  rw [digits?_eq_some_iff, List.all_eq_true, ofDigitChars_eq_ofDigits]
  constructor
  · rintro ⟨hne, hdigits, hvalue⟩
    exact ⟨hne, fun c hc => isDigit_iff.mp (hdigits c hc), hvalue⟩
  · rintro ⟨hne, hdigits, hvalue⟩
    exact ⟨hne, fun c hc => isDigit_iff.mpr (hdigits c hc), hvalue⟩

theorem Denotes.head_ne (h : Denotes s n) {c : Char} (hc : c.isDigit = false) (rest : List Char) :
    s ≠ c :: rest := by
  rintro rfl
  have hdigit := isDigit_iff.mpr (h.digits c List.mem_cons_self)
  cases hc.symm.trans hdigit

theorem natural?_of_head_ne (hplus : ∀ rest, s ≠ '+' :: rest) : natural? s = digits? s := by
  rw [natural?]
  exact hplus

theorem natural?_eq_some : natural? s = some n ↔ WritesNatural s n := by
  constructor
  · intro h
    unfold natural? at h
    split at h
    · exact .plus (digits?_eq_some.mp h)
    · exact .unsigned (digits?_eq_some.mp h)
  · rintro (hdenotes | hdenotes)
    · rw [natural?_of_head_ne (hdenotes.head_ne (by decide))]
      exact digits?_eq_some.mpr hdenotes
    · exact digits?_eq_some.mpr hdenotes

theorem WritesNatural.head_ne (h : WritesNatural s n) (rest : List Char) : s ≠ '-' :: rest := by
  cases h with
  | unsigned hdenotes => exact hdenotes.head_ne (by decide) rest
  | plus hdenotes => nofun

theorem integer?_eq_some {value : Int} : integer? s = some value ↔ WritesInteger s value := by
  constructor
  · intro h
    unfold integer? at h
    split at h
    · obtain ⟨magnitude, hmagnitude, rfl⟩ := Option.map_eq_some_iff.mp h
      obtain ⟨n, hn, hcast⟩ := Option.bind_eq_some_iff.mp hmagnitude
      obtain rfl := Option.some.inj hcast
      exact .minus (digits?_eq_some.mp hn)
    · obtain ⟨n, hn, rfl⟩ := Option.map_eq_some_iff.mp h
      exact .natural (natural?_eq_some.mp hn)
  · rintro (hnatural | hdenotes)
    · rw [integer?, natural?_eq_some.mpr hnatural]
      · rfl
      · exact hnatural.head_ne
    · rw [integer?, digits?_eq_some.mpr hdenotes]
      rfl

/-! ### Printed numbers -/

theorem denotes_toDigits (n : Nat) : Denotes (Nat.toDigits 10 n) n := by
  refine digits?_eq_some.mp (digits?_eq_some_iff.mpr ⟨Nat.toDigits_ne_nil, ?_, ?_⟩)
  · rw [List.all_eq_true]
    exact fun c hc => Nat.isDigit_of_mem_toDigits (by decide) (by decide) hc
  · exact Nat.ofDigitChars_ten_toDigits

theorem writesNatural_toString (n : Nat) : WritesNatural (toString n).toList n := by
  rw [Nat.toString_eq_repr, Nat.toList_repr]
  exact .unsigned (denotes_toDigits n)

theorem writesInteger_toString (value : Int) : WritesInteger (toString value).toList value := by
  rw [Int.toString_eq_repr, Int.repr_eq_if]
  by_cases hnonneg : 0 ≤ value
  · have hvalue : (value.toNat : Int) = value := Int.toNat_of_nonneg hnonneg
    have hwrites : WritesInteger value.toNat.repr.toList value.toNat :=
      .natural (writesNatural_toString value.toNat)
    rw [hvalue] at hwrites
    rwa [if_pos hnonneg]
  · have hvalue : -((-value).toNat : Int) = value := by omega
    have hwrites : WritesInteger ('-' :: (-value).toNat.repr.toList) (-((-value).toNat : Int)) := by
      rw [Nat.toList_repr]
      exact .minus (denotes_toDigits _)
    rw [hvalue] at hwrites
    rw [if_neg hnonneg, String.toList_append]
    exact hwrites

/-- Natural numbers are told apart by the texts that they are printed as. -/
theorem toString_natural_injective {m n : Nat} (h : toString m = toString n) : m = n := by
  have hm := natural?_eq_some.mpr (writesNatural_toString m)
  rw [h, natural?_eq_some.mpr (writesNatural_toString n)] at hm
  exact (Option.some.inj hm).symm

/-- Integers are told apart by the texts that they are printed as. -/
theorem toString_integer_injective {a b : Int} (h : toString a = toString b) : a = b := by
  have ha := integer?_eq_some.mpr (writesInteger_toString a)
  rw [h, integer?_eq_some.mpr (writesInteger_toString b)] at ha
  exact (Option.some.inj ha).symm

end Numerals

/-! ### Blanks at the ends -/

theorem trim_eq_nil_iff {s : List Char} : trim s = [] ↔ ∀ c ∈ s, isBlank c = true := by
  induction s with
  | nil => simp [trim, trimEnd]
  | cons c rest ih =>
      by_cases hblank : isBlank c = true
      · rw [trim_cons_blank hblank, ih]
        simp [hblank]
      · have hkept : trim (c :: rest) ≠ [] := by
          simp [trim, trimEnd, hblank, List.dropWhile_eq_nil_iff]
        simp [hkept, hblank]

theorem stripped_isBlank_iff {s inner : List Char} : Stripped isBlank s inner ↔ trim s = inner :=
  stripped_iff

theorem Stripped.trim_eq {s inner : List Char} (h : Stripped isBlank s inner) : trim s = inner := h.eq

/-! ### Numbers have no blanks -/

section Blanks

variable {s : List Char} {n : Nat} {value : Int}

theorem isBlank_of_isDigit {c : Char} (h : c.isDigit = true) : isBlank c = false := by
  obtain ⟨hlow, hhigh⟩ := isDigit_iff.mp h
  have hlow : 48 ≤ c.toNat := hlow
  have hhigh : c.toNat ≤ 57 := hhigh
  simp [isBlank, inRanges, blankRanges]
  omega

theorem Denotes.isBlank_eq_false (h : Denotes s n) : ∀ c ∈ s, isBlank c = false :=
  fun c hc => isBlank_of_isDigit (isDigit_iff.mpr (h.digits c hc))

theorem WritesNatural.isBlank_eq_false (h : WritesNatural s n) : ∀ c ∈ s, isBlank c = false := by
  cases h with
  | unsigned hdenotes => exact hdenotes.isBlank_eq_false
  | plus hdenotes => exact List.forall_mem_cons.mpr ⟨by decide, hdenotes.isBlank_eq_false⟩

theorem WritesInteger.isBlank_eq_false (h : WritesInteger s value) : ∀ c ∈ s, isBlank c = false := by
  cases h with
  | natural hnatural => exact hnatural.isBlank_eq_false
  | minus hdenotes => exact List.forall_mem_cons.mpr ⟨by decide, hdenotes.isBlank_eq_false⟩

end Blanks

end Rail18.Text
