/-!
# Sets of code points

A set of characters given by ranges of code points, as the properties of the Unicode standard
list them.
-/

namespace NativeApi.Text

/-- Ranges of code points, both ends included. -/
abbrev CodePoints := List (Nat × Nat)

def CodePoints.has (ranges : CodePoints) (c : Char) : Bool :=
  ranges.any fun (first, last) => first ≤ c.toNat && c.toNat ≤ last

theorem CodePoints.has_iff {ranges : CodePoints} {c : Char} :
    ranges.has c = true ↔ ∃ range ∈ ranges, range.1 ≤ c.toNat ∧ c.toNat ≤ range.2 := by
  simp [has]

end NativeApi.Text
