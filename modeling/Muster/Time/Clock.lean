/-! # Clocks

The time of a cluster, in nanoseconds since its beginning. A moment that is taken from a clock is never taken
again: two that are taken at the same time differ, and later ones are later. -/

namespace Muster

/-- A clock: its time, and how many moments were taken from it. -/
structure Clock where
  now : Nat
  taken : Nat
  deriving DecidableEq, Repr

namespace Clock

/-- The clock at the beginning. -/
def start : Clock := ⟨0, 0⟩

/-- The moment that is taken next. -/
def moment (c : Clock) : Nat := c.now + c.taken

/-- The clock after a moment was taken. -/
def take (c : Clock) : Clock := { c with taken := c.taken + 1 }

/-- The clock at a later time; it never goes back. -/
def goTo (c : Clock) (time : Nat) : Clock := { c with now := max c.now time }

theorem moment_lt_take (c : Clock) : c.moment < c.take.moment := by
  simp only [moment, take]
  omega

theorem moment_le_goTo (c : Clock) (time : Nat) : c.moment ≤ (c.goTo time).moment := by
  simp only [moment, goTo]
  omega

end Clock

end Muster
