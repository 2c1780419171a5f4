/-! # Words

Integers of a fixed number of bits, the integers that fit them, and arithmetic that gives nothing where a
result does not fit or something is divided by zero. -/

namespace Rail18.Word

/-- One more than the greatest signed integer of 64 bits. -/
def signedLimit : Int := 9223372036854775808

/-! ### The words of integers -/

/-- The signed word of 64 bits with a value, if the value fits. -/
def int64? (value : Int) : Option Int64 :=
  if -signedLimit ≤ value ∧ value < signedLimit then some (.ofInt value) else none

/-- The unsigned word of 64 bits with a value, if the value fits. -/
def uint64? (value : Int) : Option UInt64 :=
  if 0 ≤ value ∧ value < UInt64.size then some (.ofNat value.toNat) else none

/-- The unsigned word of 32 bits with a value, if the value fits. -/
def uint32? (value : Int) : Option UInt32 :=
  if 0 ≤ value ∧ value < UInt32.size then some (.ofNat value.toNat) else none

theorem int64?_eq_some_iff {value : Int} {word : Int64} :
    int64? value = some word ↔ word.toInt = value := by
  constructor
  · intro h
    unfold int64? at h
    split at h
    · next fits =>
      cases h
      have := Int64.toInt_ofInt (n := value)
      simp only [signedLimit, Int64.size] at fits this
      rw [this, Int.bmod_eq_of_le (by omega) (by omega)]
    · cases h
  · rintro rfl
    have low := Int64.le_toInt word
    have high := Int64.toInt_lt word
    simp only [int64?, signedLimit, Int64.ofInt_toInt]
    exact if_pos ⟨by omega, by omega⟩

theorem uint64?_eq_some_iff {value : Int} {word : UInt64} :
    uint64? value = some word ↔ (word.toNat : Int) = value := by
  constructor
  · intro h
    unfold uint64? at h
    split at h
    · next fits =>
      cases h
      have small : value.toNat < UInt64.size := by omega
      rw [UInt64.toNat_ofNat', Nat.mod_eq_of_lt small]
      omega
    · cases h
  · rintro rfl
    have high := UInt64.toNat_lt_size word
    simp only [uint64?, Int.toNat_natCast, UInt64.ofNat_toNat]
    exact if_pos ⟨by omega, by omega⟩

theorem uint32?_eq_some_iff {value : Int} {word : UInt32} :
    uint32? value = some word ↔ (word.toNat : Int) = value := by
  constructor
  · intro h
    unfold uint32? at h
    split at h
    · next fits =>
      cases h
      have small : value.toNat < UInt32.size := by omega
      rw [UInt32.toNat_ofNat', Nat.mod_eq_of_lt small]
      omega
    · cases h
  · rintro rfl
    have high := UInt32.toNat_lt_size word
    simp only [uint32?, Int.toNat_natCast, UInt32.ofNat_toNat]
    exact if_pos ⟨by omega, by omega⟩

theorem le_toInt (word : Int64) : -signedLimit ≤ word.toInt := Int64.le_toInt word

theorem toInt_lt (word : Int64) : word.toInt < signedLimit := Int64.toInt_lt word

theorem exists_int64? {value : Int} (hlow : -signedLimit ≤ value) (hhigh : value < signedLimit) :
    ∃ word, int64? value = some word ∧ word.toInt = value := by
  have hfits : int64? value = some (.ofInt value) := if_pos ⟨hlow, hhigh⟩
  exact ⟨_, hfits, int64?_eq_some_iff.mp hfits⟩

theorem exists_uint64? {value : Int} (hlow : 0 ≤ value) (hhigh : value < UInt64.size) :
    ∃ word, uint64? value = some word ∧ (word.toNat : Int) = value := by
  have hfits : uint64? value = some (.ofNat value.toNat) := if_pos ⟨hlow, hhigh⟩
  exact ⟨_, hfits, uint64?_eq_some_iff.mp hfits⟩

theorem exists_uint32? {value : Nat} (hhigh : value < UInt32.size) :
    ∃ word, uint32? value = some word ∧ word.toNat = value := by
  have hfits : uint32? value = some (.ofNat (value : Int).toNat) :=
    if_pos ⟨Int.natCast_nonneg value, Int.ofNat_lt.mpr hhigh⟩
  exact ⟨_, hfits, Int.ofNat.inj (uint32?_eq_some_iff.mp hfits)⟩

/-- A result that has one value in some range and is missing outside of it. -/
theorem eq_some_iff_of_exists {result : Option Int64} {value : Int} {inRange : Prop} {word : Int64}
    (hresult : inRange → ∃ word, result = some word ∧ word.toInt = value)
    (hrange : result = some word → inRange) :
    result = some word ↔ inRange ∧ word.toInt = value := by
  constructor
  · intro h
    obtain ⟨other, hother, hvalue⟩ := hresult (hrange h)
    obtain rfl : other = word := Option.some.inj (hother.symm.trans h)
    exact ⟨hrange h, hvalue⟩
  · rintro ⟨hin, hvalue⟩
    obtain ⟨other, hother, hotherValue⟩ := hresult hin
    obtain rfl : other = word := Int64.toInt_inj.mp (hotherValue.trans hvalue.symm)
    exact hother

/-! ### Arithmetic that may fail -/

def add? (a b : Int64) : Option Int64 := int64? (a.toInt + b.toInt)

def sub? (a b : Int64) : Option Int64 := int64? (a.toInt - b.toInt)

/-- The remainder of a signed word that is not negative, if it is not divided by zero. -/
def emod? (a b : Int64) : Option Int64 := if b = 0 then none else int64? (a.toInt % b.toInt)

def addNatural? (a b : UInt64) : Option UInt64 := uint64? (a.toNat + b.toNat)

/-- The remainder of an unsigned word, if it is not divided by zero. -/
def mod? (a b : UInt64) : Option UInt64 := if b = 0 then none else some (a % b)

variable {a b : Int64}

theorem sub?_eq_some_iff {difference : Int64} :
    sub? a b = some difference ↔ difference.toInt = a.toInt - b.toInt :=
  int64?_eq_some_iff

theorem emod?_eq_some_iff {rest : Int64} (hpos : 0 < b.toInt) :
    emod? a b = some rest ↔ rest.toInt = a.toInt % b.toInt := by
  have hnonzero : b ≠ 0 := by
    rintro rfl
    exact absurd hpos (by decide)
  rw [emod?, if_neg hnonzero, int64?_eq_some_iff]

theorem exists_add? (hlow : -signedLimit ≤ a.toInt + b.toInt) (hhigh : a.toInt + b.toInt < signedLimit) :
    ∃ sum, add? a b = some sum ∧ sum.toInt = a.toInt + b.toInt :=
  exists_int64? hlow hhigh

theorem exists_sub? (hlow : -signedLimit ≤ a.toInt - b.toInt) (hhigh : a.toInt - b.toInt < signedLimit) :
    ∃ difference, sub? a b = some difference ∧ difference.toInt = a.toInt - b.toInt :=
  exists_int64? hlow hhigh

theorem exists_emod? (a : Int64) (hpos : 0 < b.toInt) :
    ∃ rest, emod? a b = some rest ∧ rest.toInt = a.toInt % b.toInt := by
  have hnonneg := Int.emod_nonneg a.toInt (show b.toInt ≠ 0 by omega)
  have hlt := Int.emod_lt_of_pos a.toInt hpos
  have hb := toInt_lt b
  have hlimit : 0 < signedLimit := by decide
  obtain ⟨rest, -, hvalue⟩ : ∃ rest, int64? (a.toInt % b.toInt) = some rest ∧ _ :=
    exists_int64? (by omega) (by omega)
  exact ⟨rest, (emod?_eq_some_iff hpos).mpr hvalue, hvalue⟩

theorem exists_addNatural? {a b : UInt64} (h : a.toNat + b.toNat < UInt64.size) :
    ∃ sum, addNatural? a b = some sum ∧ sum.toNat = a.toNat + b.toNat := by
  have hnonneg : 0 ≤ (a.toNat + b.toNat : Int) := by omega
  obtain ⟨sum, hsum, hvalue⟩ := exists_uint64? hnonneg (by omega)
  exact ⟨sum, hsum, by omega⟩

end Rail18.Word
