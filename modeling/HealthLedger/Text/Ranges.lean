/-!
# Sets of code points

A character property is given as the list of its runs of code points. Membership is the only
question asked of such a set.
-/

namespace HealthLedger.Text

/-- Runs of code points, each with its first and its last member. -/
abbrev Ranges := List (Nat × Nat)

/-- Whether a character lies in one of the runs. -/
def Ranges.covers (ranges : Ranges) (c : Char) : Bool :=
  ranges.any fun run => run.1 ≤ c.toNat && c.toNat ≤ run.2

/-- A character is covered exactly if some run has it between its ends. -/
theorem Ranges.covers_iff (ranges : Ranges) (c : Char) :
    ranges.covers c = true ↔ ∃ run ∈ ranges, run.1 ≤ c.toNat ∧ c.toNat ≤ run.2 := by
  simp [Ranges.covers]

end HealthLedger.Text
