/-! # Ranges of characters

Classes of characters as lists of ranges of code points, each written as its first and its last one. -/

namespace Muster.Text

/-- A class of characters. -/
abbrev Ranges := List (Nat × Nat)

/-- The character lies in one of the ranges. -/
def Ranges.has (r : Ranges) (c : Char) : Bool :=
  r.any fun (a, b) => a ≤ c.toNat && c.toNat ≤ b

end Muster.Text
