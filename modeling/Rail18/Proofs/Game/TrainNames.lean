import Rail18.Game.Roster
import Rail18.Proofs.Text.Numerals
import Rail18.Proofs.Word

/-!
# What the name of a train tells

The distance of a train that does not declare one is the number that its name begins with, blanks passed
over. The number ends where the digits end, and those of all scripts count as digits there, but a number is
told by ASCII digits alone. Every name tells a distance, 999 if there is no such number or it is no word of
32 bits.
-/

namespace Rail18

open Text (Denotes LeadingRun isBlank isDecimalDigit)

/-- The digits of a name: the longest run of decimal digits of any script that follows its leading blanks. -/
def NameDigits (name run : List Char) : Prop :=
  ∃ blanks named rest, LeadingRun isBlank name blanks named ∧ LeadingRun isDecimalDigit named run rest

/-- Digits that tell no distance: there are none, one of them is not an ASCII digit, or they denote too
great a number. -/
inductive Untold : List Char → Prop
  | none : Untold []
  | foreign {run : List Char} {c : Char} : c ∈ run → ¬ ('0' ≤ c ∧ c ≤ '9') → Untold run
  | great {run : List Char} {n : Nat} : Denotes run n → 2 ^ 32 ≤ n → Untold run

theorem nameDigits_iff {name run : List Char} :
    NameDigits name run ↔ (name.dropWhile isBlank).takeWhile isDecimalDigit = run := by
  simp only [NameDigits, Text.leadingRun_iff]
  constructor
  · rintro ⟨_, _, _, ⟨-, rfl⟩, rfl, -⟩
    rfl
  · rintro rfl
    exact ⟨_, _, _, ⟨rfl, rfl⟩, rfl, rfl⟩

theorem untold_iff {run : List Char} : Untold run ↔ ¬ ∃ n, Denotes run n ∧ n < 2 ^ 32 := by
  constructor
  · rintro (_ | ⟨hc, hforeign⟩ | ⟨hgreat, hbound⟩) ⟨n, hn, hlt⟩
    · exact hn.ne_nil rfl
    · exact hforeign (hn.digits _ hc)
    · obtain rfl := hn.value.symm.trans hgreat.value
      omega
  · intro h
    by_cases hnil : run = []
    · exact hnil ▸ .none
    by_cases hascii : ∀ c ∈ run, '0' ≤ c ∧ c ≤ '9'
    · have hdenotes : Denotes run _ := ⟨hnil, hascii, rfl⟩
      by_contra hnot
      exact h ⟨_, hdenotes, Nat.lt_of_not_le fun hbound => hnot (.great hdenotes hbound)⟩
    · rw [not_forall₂] at hascii
      obtain ⟨c, hc, hforeign⟩ := hascii
      exact .foreign hc hforeign

/-- The digits of a name decide its distance. -/
theorem toNat_nameDistance {name : String} {run : List Char} (h : NameDigits name.toList run) {n : Nat} :
    (nameDistance name).toNat = n ↔ Denotes run n ∧ n < 2 ^ 32 ∨ Untold run ∧ n = 999 := by
  have hword {n : Nat} : ((Text.digits? run).bind fun n => Word.uint32? n).map UInt32.toNat = some n ↔
      Denotes run n ∧ n < 2 ^ 32 := by
    rw [Word.map_bind_uint32?_eq_some, Text.digits?_eq_some]
  rw [nameDistance, nameDigits_iff.mp h, untold_iff]
  cases hvalue : (Text.digits? run).bind fun n => Word.uint32? n with
  | none =>
      have htold : ¬ ∃ n, Denotes run n ∧ n < 2 ^ 32 := by
        rintro ⟨n, hn⟩
        have hsome := hword.mpr hn
        rw [hvalue] at hsome
        cases hsome
      constructor
      · rintro rfl
        exact .inr ⟨htold, rfl⟩
      · rintro (hn | ⟨-, rfl⟩)
        · exact absurd ⟨n, hn⟩ htold
        · rfl
  | some word =>
      have htold : Denotes run word.toNat ∧ word.toNat < 2 ^ 32 := hword.mp (by rw [hvalue]; rfl)
      constructor
      · rintro rfl
        exact .inl htold
      · rintro (hn | ⟨huntold, -⟩)
        · have hsome := hword.mpr hn
          rw [hvalue] at hsome
          exact Option.some.inj hsome
        · exact absurd ⟨word.toNat, htold⟩ huntold

/-! ### Names with a number in front -/

theorem isDecimalDigit_of_isDigit {c : Char} (h : c.isDigit = true) : isDecimalDigit c = true := by
  obtain ⟨hlow, hhigh⟩ := Text.isDigit_iff.mp h
  exact Text.inRanges_iff.mpr ⟨(0x30, 0x39), List.mem_cons_self, hlow, hhigh⟩

theorem nameDigits_toString_append (n : Nat) {rest : List Char}
    (hrest : ∀ c ∈ rest.head?, isDecimalDigit c = false) :
    NameDigits ((toString n).toList ++ rest) (Nat.toDigits 10 n) := by
  have hdigit : ∀ c ∈ Nat.toDigits 10 n, c.isDigit = true :=
    fun c hc => Nat.isDigit_of_mem_toDigits (by decide) (by decide) hc
  have hfirst : ∀ c ∈ (Nat.toDigits 10 n ++ rest).head?, isBlank c = false := by
    intro c hc
    obtain ⟨first, digits, hdigits⟩ := List.exists_cons_of_ne_nil (Nat.toDigits_ne_nil (b := 10) (n := n))
    rw [hdigits] at hc hdigit
    obtain rfl := Option.some.inj hc
    exact Text.isBlank_of_isDigit (hdigit _ List.mem_cons_self)
  rw [Nat.toString_eq_repr, Nat.toList_repr]
  exact ⟨[], _, rest, ⟨rfl, nofun, hfirst⟩,
    ⟨rfl, fun c hc => isDecimalDigit_of_isDigit (hdigit c hc), hrest⟩⟩

/-- A name that begins with a sign has no digits, whatever follows. -/
theorem nameDigits_sign {name blanks rest : List Char} {sign : Char} (hsign : sign = '+' ∨ sign = '-')
    (h : LeadingRun isBlank name blanks (sign :: rest)) : NameDigits name [] := by
  have hnot : isDecimalDigit sign = false := by
    rcases hsign with rfl | rfl <;> decide
  exact ⟨blanks, sign :: rest, sign :: rest, h, rfl, nofun, by simpa using hnot⟩

/-- Every name has its digits, and they decide its distance: the number that they denote, if it is a word
of 32 bits, and otherwise 999. So a number is the distance of a name that begins with it and goes on with
no digit, and a name that begins with a sign has the distance 999. -/
theorem nameDistance_told :
    (∀ name : String, ∃! run, NameDigits name.toList run) ∧
    (∀ (name : String) (run : List Char), NameDigits name.toList run → ∀ n,
      (nameDistance name).toNat = n ↔ Denotes run n ∧ n < 2 ^ 32 ∨ Untold run ∧ n = 999) ∧
    (∀ (name : String) (blanks rest : List Char) (sign : Char), sign = '+' ∨ sign = '-' →
      LeadingRun isBlank name.toList blanks (sign :: rest) → nameDistance name = 999) ∧
    ∀ (n : UInt32) (suffix : String), (∀ c ∈ suffix.toList.head?, isDecimalDigit c = false) →
      nameDistance (toString n.toNat ++ suffix) = n := by
  refine ⟨fun name => ?_, fun name run hrun n => toNat_nameDistance hrun,
    fun name blanks rest sign hsign hblanks => ?_, fun n suffix hsuffix => ?_⟩
  · simp only [nameDigits_iff]
    exact ⟨_, rfl, fun run hrun => hrun.symm⟩
  · have hdistance : (nameDistance name).toNat = 999 :=
      (toNat_nameDistance (nameDigits_sign hsign hblanks)).mpr (.inr ⟨.none, rfl⟩)
    exact UInt32.toNat_inj.mp hdistance
  · have hdigits : NameDigits (toString n.toNat ++ suffix).toList (Nat.toDigits 10 n.toNat) := by
      rw [String.toList_append]
      exact nameDigits_toString_append n.toNat hsuffix
    exact UInt32.toNat_inj.mp
      ((toNat_nameDistance hdigits).mpr (.inl ⟨Text.denotes_toDigits n.toNat, n.toNat_lt⟩))

/-- Leading zeros are passed over, a digit of another script spoils the digits before it, and a number
goes on to the last digit. -/
theorem nameDistance_told_scripts :
    (NameDigits "\u3000 0042D".toList "0042".toList ∧ (nameDistance "\u3000 0042D").toNat = 42) ∧
      (NameDigits "4٣".toList "4٣".toList ∧ (nameDistance "4٣").toNat = 999) ∧
      nameDistance "-4" = 999 ∧ nameDistance (toString (4294967295 : UInt32).toNat ++ "+2") = 4294967295 := by
  obtain ⟨-, hdecided, hsigned, hnumbered⟩ := nameDistance_told
  have hascii : NameDigits "\u3000 0042D".toList "0042".toList := nameDigits_iff.mpr (by decide +kernel)
  have hvalue : Denotes "0042".toList 42 := Text.digits?_eq_some.mp (by decide +kernel)
  have hmixed : NameDigits "4٣".toList "4٣".toList := nameDigits_iff.mpr (by decide +kernel)
  have hforeign : Untold "4٣".toList := .foreign (c := '٣') (by decide +kernel) (by decide)
  have hsign : LeadingRun isBlank "-4".toList [] ['-', '4'] := Text.leadingRun_iff.mpr (by decide +kernel)
  have hend : ∀ c ∈ "+2".toList.head?, isDecimalDigit c = false := by
    rintro c ⟨⟩
    decide
  exact ⟨⟨hascii, (hdecided _ _ hascii 42).mpr (.inl ⟨hvalue, by decide⟩)⟩,
    ⟨hmixed, (hdecided _ _ hmixed 999).mpr (.inr ⟨hforeign, rfl⟩)⟩,
    hsigned "-4" [] ['4'] '-' (.inr rfl) hsign, hnumbered 4294967295 "+2" hend⟩

end Rail18
