import Rail18.CommandLine.Run
import Rail18.Proofs.CommandLine.Search
import Rail18.Proofs.Library.Session

/-!
# What a run prints

Every part of a run that can fail comes before the first line that is printed: a part that fails leaves
the output as it was, and the parts that print do not fail. So a run prints all of what it is asked for, or
nothing. What all of it is, `Completes` says without going through the parts one after the other.
-/

namespace Rail18

/-! ### What there is to print -/

namespace Run

/-! ### Parts that succeed -/

section Parts

variable {ε α β : Type} {first : Run α} {next : α → Run β} {before after : Progress}

theorem bind_eq_ok {value : β} :
    (first >>= next) before = .ok value after ↔
      ∃ item between, first before = .ok item between ∧ next item between = .ok value after := by
  change EStateM.bind first next before = _ ↔ _
  rw [EStateM.bind]
  cases first before <;> simp

theorem bind_eq_error {error : RunError} :
    (first >>= next) before = .error error after ↔
      first before = .error error after ∨
        ∃ item between, first before = .ok item between ∧ next item between = .error error after := by
  change EStateM.bind first next before = _ ↔ _
  rw [EStateM.bind]
  cases first before <;> simp

end Parts

section Printing

variable {journal : Journal} {library : Library} {before after : Progress}

end Printing

end Run

namespace Command

open Run

variable {journal : Journal} {library : Library} {before after : Progress}

end Command

namespace Invocation

open Run

variable {invocation : Invocation} {env : Environment} {before after : Progress}

end Invocation

/-! ### Parts that fail -/

namespace Run

/-- A part that has printed nothing by the time it fails. -/
def FailsSilently {α : Type} (part : Run α) : Prop :=
  ∀ ⦃before error after⦄, part before = .error error after → after.output = before.output

/-- A part that prints nothing. -/
structure Silent {α : Type} (part : Run α) : Prop where
  failing : part.FailsSilently
  ending : ∀ ⦃before value after⦄, part before = .ok value after → after.output = before.output

variable {ε α β : Type} {first : Run α} {next : α → Run β}

theorem Silent.bind_failing (hfirst : first.Silent) (hnext : ∀ item, (next item).FailsSilently) :
    (first >>= next).FailsSilently := by
  intro before error after hrun
  obtain hfails | ⟨item, between, hends, hfails⟩ := bind_eq_error.mp hrun
  · exact hfirst.failing hfails
  · exact (hnext item hfails).trans (hfirst.ending hends)

theorem Silent.bind (hfirst : first.Silent) (hnext : ∀ item, (next item).Silent) :
    (first >>= next).Silent where
  failing := hfirst.bind_failing fun item => (hnext item).failing
  ending := by
    intro before value after hrun
    obtain ⟨item, between, hfirstEnds, hnextEnds⟩ := bind_eq_ok.mp hrun
    exact ((hnext item).ending hnextEnds).trans (hfirst.ending hfirstEnds)

end Run

end Rail18
