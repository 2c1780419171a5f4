/-!
# Outcomes that succeed

A chain of steps that may fail succeeds exactly if each step does.
-/

namespace Rail18

section Outcome

variable {ε α β : Type} {result : Except ε α} {value : β}

theorem bind_eq_ok {next : α → Except ε β} :
    result >>= next = .ok value ↔ ∃ item, result = .ok item ∧ next item = .ok value := by
  cases result with
  | error error =>
      constructor
      · intro h
        cases h
      · rintro ⟨item, h, -⟩
        cases h
  | ok item =>
      constructor
      · intro h
        exact ⟨item, rfl, h⟩
      · rintro ⟨other, h, hnext⟩
        obtain rfl := Except.ok.inj h
        exact hnext

theorem exists_bind_eq_ok {next : α → Except ε β} :
    (∃ value, result >>= next = .ok value) ↔
      ∃ item, result = .ok item ∧ ∃ value, next item = .ok value := by
  constructor
  · rintro ⟨value, h⟩
    obtain ⟨item, hitem, hnext⟩ := bind_eq_ok.mp h
    exact ⟨item, hitem, value, hnext⟩
  · rintro ⟨item, hitem, value, hnext⟩
    exact ⟨value, bind_eq_ok.mpr ⟨item, hitem, hnext⟩⟩

/-- A chain whose second step does not fail fails only with its first one. -/
theorem exists_bind_eq_ok_of_total {next : α → Except ε β} (h : ∀ item, ∃ value, next item = .ok value) :
    (∃ value, result >>= next = .ok value) ↔ ∃ item, result = .ok item := by
  rw [exists_bind_eq_ok]
  exact exists_congr fun item => and_iff_left (h item)

theorem map_eq_ok {f : α → β} :
    result.map f = .ok value ↔ ∃ item, result = .ok item ∧ f item = value := by
  cases result with
  | error error => simp [Except.map]
  | ok item => simp [Except.map]

end Outcome

end Rail18
