import Rail18.Amount
import Rail18.Proofs.Outcome
import Rail18.Proofs.Text.Numerals
import Rail18.Proofs.Word
import Rail18.Tables

/-!
# What amounts and counts resolve to

An amount or a count that is a text resolves exactly if the text, blanks at its ends aside, writes a number
in range or is the infinity marker where that is allowed. Every other text is malformed, and is told under
the field that it stands in.
-/

namespace Rail18

open Text (Stripped WritesInteger WritesNatural)

/-- The texts that stand for a value where `unlimited` is that of the infinity marker, if it has one: those
that write an integer of 64 bits, and the marker. -/
def Amount.StandsFor (unlimited : Option Int64) (written : String) (value : Int) : Prop :=
  ∃ inner, Stripped Text.isBlank written.toList inner ∧
    (WritesInteger inner value ∧ -2 ^ 63 ≤ value ∧ value < 2 ^ 63 ∨
      inner = infinityMarker ∧ unlimited.map Int64.toInt = some value)

/-- The texts that stand for a number of things: those that write a natural number of 32 bits, and the
marker for `unlimited`. -/
def Count.StandsFor (unlimited : UInt32) (written : String) (value : Nat) : Prop :=
  ∃ inner, Stripped Text.isBlank written.toList inner ∧
    (WritesNatural inner value ∧ value < 2 ^ 32 ∨ inner = infinityMarker ∧ unlimited.toNat = value)

/-! ### Words in text -/

theorem map_signedWord?_eq_some {inner : List Char} {value : Int} :
    (Amount.signedWord? inner).map Int64.toInt = some value ↔
      WritesInteger inner value ∧ -2 ^ 63 ≤ value ∧ value < 2 ^ 63 := by
  constructor
  · intro h
    obtain ⟨word, hword, rfl⟩ := Option.map_eq_some_iff.mp h
    obtain ⟨written, hwritten, hfits⟩ := Option.bind_eq_some_iff.mp hword
    obtain rfl := Word.int64?_eq_some_iff.mp hfits
    exact ⟨Text.integer?_eq_some.mp hwritten, word.le_toInt, word.toInt_lt⟩
  · rintro ⟨hwrites, hlow, hhigh⟩
    obtain ⟨word, hfits, hvalue⟩ := Word.exists_int64? hlow hhigh
    rw [Amount.signedWord?, Text.integer?_eq_some.mpr hwrites, Option.bind_some, hfits, Option.map_some,
      hvalue]

theorem map_word?_eq_some {inner : List Char} {value : Nat} :
    (Count.word? inner).map UInt32.toNat = some value ↔ WritesNatural inner value ∧ value < 2 ^ 32 := by
  rw [Count.word?, Word.map_bind_uint32?_eq_some, Text.natural?_eq_some]

/-! ### Texts that resolve -/

theorem Amount.standsFor_iff {unlimited : Option Int64} {written : String} {value : Int} :
    Amount.StandsFor unlimited written value ↔
      (signedWord? (Text.trim written.toList)).map Int64.toInt = some value ∨
        Text.trim written.toList = infinityMarker ∧ unlimited.map Int64.toInt = some value := by
  simp only [Amount.StandsFor, Text.stripped_isBlank_iff, exists_eq_left', map_signedWord?_eq_some]

theorem Count.standsFor_iff {unlimited : UInt32} {written : String} {value : Nat} :
    Count.StandsFor unlimited written value ↔
      (word? (Text.trim written.toList)).map UInt32.toNat = some value ∨
        Text.trim written.toList = infinityMarker ∧ unlimited.toNat = value := by
  simp only [Count.StandsFor, Text.stripped_isBlank_iff, exists_eq_left', map_word?_eq_some]

theorem Amount.map_resolve_text {field written : String} {unlimited : Option Int64} {value : Int} :
    ((text written).resolve field unlimited).map Int64.toInt = .ok value ↔
      Amount.StandsFor unlimited written value := by
  have hmarker : signedWord? infinityMarker = none := by decide
  rw [standsFor_iff]
  by_cases htrim : Text.trim written.toList = infinityMarker
  · cases unlimited <;> simp [resolve, htrim, hmarker, Except.map]
  · cases hword : signedWord? (Text.trim written.toList) <;> simp [resolve, htrim, hword, Except.map]

theorem Count.map_resolve_text {field written : String} {unlimited : UInt32} {value : Nat} :
    ((text written).resolve field unlimited).map UInt32.toNat = .ok value ↔
      Count.StandsFor unlimited written value := by
  have hmarker : word? infinityMarker = none := by decide
  rw [standsFor_iff]
  by_cases htrim : Text.trim written.toList = infinityMarker
  · simp [resolve, htrim, hmarker, Except.map]
  · cases hword : word? (Text.trim written.toList) <;> simp [resolve, htrim, hword, Except.map]

theorem Amount.standsFor_toString (unlimited : Option Int64) (word : Int64) :
    Amount.StandsFor unlimited (toString word.toInt) word.toInt := by
  have hwrites := Text.writesInteger_toString word.toInt
  exact ⟨_, Text.stripped_of_forall hwrites.isBlank_eq_false, .inl ⟨hwrites, word.le_toInt, word.toInt_lt⟩⟩

theorem Count.standsFor_toString (unlimited word : UInt32) :
    Count.StandsFor unlimited (toString word.toNat) word.toNat := by
  have hwrites := Text.writesNatural_toString word.toNat
  exact ⟨_, Text.stripped_of_forall hwrites.isBlank_eq_false, .inl ⟨hwrites, word.toNat_lt⟩⟩

/-! ### Texts that are malformed -/

theorem Amount.field_of_resolve {field : String} {unlimited : Option Int64} {amount : Amount}
    {cause : Malformed} (h : amount.resolve field unlimited = .error cause) : cause.field = field := by
  cases amount with
  | number value => cases h
  | text written =>
      unfold Amount.resolve at h
      dsimp only at h
      split at h
      · cases unlimited with
        | some value => cases h
        | none =>
            cases h
            rfl
      · split at h
        · cases h
        · cases h
          rfl

theorem Count.field_of_resolve {field : String} {unlimited : UInt32} {count : Count} {cause : Malformed}
    (h : count.resolve field unlimited = .error cause) : cause.field = field := by
  cases count with
  | number value => cases h
  | text written =>
      unfold Count.resolve at h
      dsimp only at h
      split at h
      · cases h
      · split at h
        · cases h
        · cases h
          rfl

/-- A result gives the one value that stands for what is asked, and without such a value it is a fault that
is told under a field. -/
structure GivesExactly {α β : Type} (field : String) (view : α → β) (stands : β → Prop)
    (result : Except Malformed α) : Prop where
  value_iff : ∀ value, result.map view = .ok value ↔ stands value
  malformed_iff : (∃ cause, result = .error cause ∧ cause.field = field) ↔ ¬ ∃ value, stands value

theorem GivesExactly.of_value_iff {α β : Type} {field : String} {view : α → β} {stands : β → Prop}
    {result : Except Malformed α} (hfield : ∀ cause, result = .error cause → cause.field = field)
    (hvalue : ∀ value, result.map view = .ok value ↔ stands value) :
    GivesExactly field view stands result where
  value_iff := hvalue
  malformed_iff := by
    simp only [← hvalue]
    cases result with
    | ok item => simp [Except.map]
    | error cause => simp [Except.map, hfield cause rfl]

/-- A text resolves as an amount to the integer that it stands for, and as a count to the natural number;
a text that stands for none is malformed, which is told under the field. So a number is what its own text
resolves to. -/
theorem resolve_texts (field written : String) (unlimited : Option Int64) (tables : Tables) :
    GivesExactly field Int64.toInt (Amount.StandsFor unlimited written)
      ((Amount.text written).resolve field unlimited) ∧
    GivesExactly field UInt32.toNat (Count.StandsFor tables.unlimitedQuantity written)
      ((Count.text written).resolve field tables.unlimitedQuantity) ∧
    (∀ word, (Amount.text (Amount.number word).shown).resolve field unlimited = .ok word) ∧
    ∀ word, (Count.text (toString word.toNat)).resolve field tables.unlimitedQuantity = .ok word := by
  refine ⟨.of_value_iff (fun cause => Amount.field_of_resolve) fun value => Amount.map_resolve_text,
    .of_value_iff (fun cause => Count.field_of_resolve) fun value => Count.map_resolve_text, ?_, ?_⟩
  · intro word
    have hstands := Amount.standsFor_toString unlimited word
    have hresolves : ((Amount.text _).resolve field unlimited).map Int64.toInt = .ok word.toInt :=
      Amount.map_resolve_text.mpr hstands
    obtain ⟨found, hfound, hsame⟩ := map_eq_ok.mp hresolves
    rwa [Int64.toInt_inj.mp hsame] at hfound
  · intro word
    have hstands := Count.standsFor_toString tables.unlimitedQuantity word
    have hresolves : ((Count.text _).resolve field tables.unlimitedQuantity).map UInt32.toNat =
        .ok word.toNat := Count.map_resolve_text.mpr hstands
    obtain ⟨found, hfound, hsame⟩ := map_eq_ok.mp hresolves
    rwa [UInt32.toNat_inj.mp hsame] at hfound

/-- The ends of the range, with leading zeros and blanks of another script. -/
example :
    (Amount.text "\u3000-009223372036854775808 ").resolve "bank" none = .ok Int64.minValue ∧
      (Amount.text "9223372036854775808").resolve "bank" none =
        .error (.notNumber "bank" "9223372036854775808") ∧
      (Count.text "+4294967295").resolve "tiles.8" 20 = .ok 4294967295 ∧
      (Count.text "4294967296").resolve "tiles.8" 20 = .error (.notQuantity "tiles.8" "4294967296") := by
  decide +kernel

end Rail18
