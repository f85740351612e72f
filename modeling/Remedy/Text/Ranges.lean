/-!
# Ranges of code points

A set of characters given as a list of closed intervals of code points, the form in which the
tables of character properties are kept.
-/

namespace Remedy.Text

/-- Closed intervals of code points, in increasing order. -/
abbrev Ranges := List (Nat × Nat)

/-- The code point lies in one of the intervals. -/
def Ranges.has (ranges : Ranges) (c : Char) : Bool :=
  ranges.any fun (lo, hi) => lo ≤ c.toNat && c.toNat ≤ hi

end Remedy.Text
