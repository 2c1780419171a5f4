import Mathlib.Algebra.Order.Ring.Int
import Rail18.Word

/-!
# Numbers that are words

The bounds within which an integer fits a word, and numbers that are read as words.
-/

namespace Rail18.Word

theorem signedLimit_eq : signedLimit = 2 ^ 63 := by decide

theorem exists_int64?_iff {value : Int} :
    (∃ word, int64? value = some word) ↔ -2 ^ 63 ≤ value ∧ value < 2 ^ 63 := by
  change _ ↔ -signedLimit ≤ value ∧ value < signedLimit
  simp [int64?]

theorem exists_uint64?_iff {value : Int} :
    (∃ word, uint64? value = some word) ↔ 0 ≤ value ∧ value < 2 ^ 64 := by
  simp [uint64?]

/-- A number read as an unsigned word of 32 bits gives that number if it fits, and otherwise nothing. -/
theorem map_bind_uint32?_eq_some {number : Option Nat} {value : Nat} :
    (number.bind fun n => uint32? n).map UInt32.toNat = some value ↔ number = some value ∧ value < 2 ^ 32 := by
  constructor
  · intro h
    obtain ⟨word, hword, rfl⟩ := Option.map_eq_some_iff.mp h
    obtain ⟨n, hn, hfits⟩ := Option.bind_eq_some_iff.mp hword
    have hvalue : word.toNat = n := Int.ofNat.inj (uint32?_eq_some_iff.mp hfits)
    exact ⟨hn.trans (congrArg some hvalue.symm), word.toNat_lt⟩
  · rintro ⟨rfl, hhigh⟩
    obtain ⟨word, hfits, hvalue⟩ := exists_uint32? hhigh
    rw [Option.bind_some, hfits, Option.map_some, hvalue]

end Rail18.Word
