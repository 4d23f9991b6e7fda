/-
Sets of code points, written as ascending ranges with both ends included.
The character properties of this library that reach beyond ASCII are tables
of this form.
-/

namespace AbiProbe.Text

/-- Ranges of code points, ascending and apart from each other. -/
abbrev CodePoints := List (Nat × Nat)

namespace CodePoints

/-- Whether some range holds the character's code point. -/
def holds (ranges : CodePoints) (c : Char) : Bool :=
  ranges.any fun r => r.1 ≤ c.toNat && c.toNat ≤ r.2

theorem holds_iff {ranges : CodePoints} {c : Char} :
    ranges.holds c = true ↔ ∃ r ∈ ranges, r.1 ≤ c.toNat ∧ c.toNat ≤ r.2 := by
  simp [holds]

end CodePoints

end AbiProbe.Text
