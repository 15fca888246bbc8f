/-! # Sets of characters

A property of characters is written down as the ascending list of the closed ranges of code points
that have it. -/

namespace ClockFace.Text

/-- Closed ranges of code points. -/
abbrev Ranges := List (Nat × Nat)

namespace Ranges

/-- The character lies in one of the ranges. -/
def contains (rs : Ranges) (c : Char) : Bool :=
  rs.any fun r => r.1 ≤ c.toNat && c.toNat ≤ r.2

end Ranges

end ClockFace.Text
