/-!
# Sets of code points

A character property of the Unicode standard is a finite union of intervals. It is kept as the
list of those intervals, so a membership test is one pass over the list and a fact about the
property is a fact about a list.
-/

set_option autoImplicit false

namespace AccessorGen.Text

/-- A set of code points: closed intervals, rising and disjoint. -/
abbrev Ranges := List (Nat × Nat)

def Ranges.has (ranges : Ranges) (c : Char) : Bool :=
  ranges.any fun r => r.1 ≤ c.toNat && c.toNat ≤ r.2

/-- A character is in the set exactly when it lies between the ends of one of its intervals. -/
theorem Ranges.has_iff (ranges : Ranges) (c : Char) :
    ranges.has c = true ↔ ∃ r ∈ ranges, r.1 ≤ c.toNat ∧ c.toNat ≤ r.2 := by
  simp [Ranges.has]

end AccessorGen.Text
