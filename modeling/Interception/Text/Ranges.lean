/-!
# Ranges of characters

A property of characters is kept as the ascending list of the ranges that have
it, ends included.
-/

set_option autoImplicit false

namespace Interception.Text

abbrev Ranges := List (Nat × Nat)

def Ranges.has (ranges : Ranges) (c : Char) : Bool :=
  ranges.any fun r => r.1 ≤ c.toNat && c.toNat ≤ r.2

@[simp] theorem Ranges.has_iff {ranges : Ranges} {c : Char} :
    ranges.has c = true ↔ ∃ r ∈ ranges, r.1 ≤ c.toNat ∧ c.toNat ≤ r.2 := by
  simp [Ranges.has]

end Interception.Text
