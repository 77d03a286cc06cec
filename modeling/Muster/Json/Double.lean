/-! # Doubles

The numbers of a JSON text that are no whole ones of 64 bits: doubles without a sign, how decimals are read as one, and
the shortest decimal that stands for one. All arithmetic is exact, and rounded once per step to the nearest double, of
two at the same distance to the even one. -/

namespace Muster.Json

/-- The double `mantissa · 2 ^ exponent`. -/
structure Double where
  mantissa : Nat
  exponent : Int
  deriving DecidableEq, Repr

namespace Double

/-- Zero. -/
def zero : Double := ⟨0, -1074⟩

/-- The fraction `m / n · 2 ^ e` as numerator and denominator. -/
def fraction (m n : Nat) (e : Int) : Nat × Nat :=
  if 0 ≤ e then (m * Nat.pow 2 e.toNat, n) else (m, n * Nat.pow 2 (-e).toNat)

/-- The whole number nearest to `m / n`, the even one of two. -/
def nearestWhole (m n : Nat) : Nat :=
  let q := m / n
  let twice := 2 * (m % n)
  if twice < n ∨ (twice = n ∧ q % 2 = 0) then q else q + 1

/-- The exponent of the double nearest to `m / n`: its mantissa has 53 bits, or fewer at the end of the range. -/
def exponentOf (m n : Nat) : Int :=
  let low : Int := (Nat.log2 m : Int) - Nat.log2 n - 53
  let (a, b) := fraction m n (-low)
  max (-1074) (if 9007199254740992 ≤ a / b then low + 1 else low)

/-- The double nearest to `m / n · 2 ^ e`; `none` past the largest one. -/
def nearest (m n : Nat) (e : Int) : Option Double :=
  if m = 0 then some zero
  else
    let (m, n) := fraction m n e
    let e := exponentOf m n
    let (a, b) := fraction m n (-e)
    let q := nearestWhole a b
    let d : Double := if q = 9007199254740992 then ⟨4503599627370496, e + 1⟩ else ⟨q, e⟩
    if 971 < d.exponent then none else some d

/-- A power of ten, exact up to the 22nd. -/
def tenTo (n : Nat) : Double :=
  (nearest (Nat.pow 10 n) 1 0).getD zero

/-- The product, if there is a double for it. -/
def mul? (a b : Double) : Option Double :=
  nearest (a.mantissa * b.mantissa) 1 (a.exponent + b.exponent)

/-- The quotient, if there is a double for it. -/
def div? (a b : Double) : Option Double :=
  nearest a.mantissa b.mantissa (a.exponent - b.exponent)

/-- Moves the point of a number by `n` places, one power of ten at a time: to the left by up to 308 places in one step.
A number of 64 bits is down to zero after two steps, so `steps` may run out at zero only. -/
def shift? : Nat → Double → Int → Option Double
  | steps, d, n =>
    if d = zero then some zero
    else if 308 < n then none
    else if 0 ≤ n then d.mul? (tenTo n.toNat)
    else if -308 ≤ n then d.div? (tenTo (-n).toNat)
    else
      match steps with
      | 0 => some zero
      | steps + 1 => (d.div? (tenTo 308)).bind (shift? steps · (n + 308))

/-- The double that stands for `digits · 10 ^ places`, for digits that fit 64 bits: the digits are rounded first, and
then each time that the point is moved. -/
def ofDecimal? (digits : Nat) (places : Int) : Option Double :=
  (nearest digits 1 0).bind (shift? 3 · places)

/-- The number of places before the point: `10 ^ (places - 1) ≤ d < 10 ^ places`. -/
def places (d : Double) : Int :=
  let (m, n) := fraction d.mantissa 1 d.exponent
  (Nat.toDigits 10 (m * Nat.pow 10 325 / n)).length - 325

/-- The decimal with `count` digits, with its places, that reads as `d` if one does; of two the nearer one. -/
def withDigits? (d : Double) (count : Nat) : Option (Nat × Int) :=
  let k := d.places - count
  let (m, n) := fraction d.mantissa 1 d.exponent
  let (m, n) := if 0 ≤ k then (m, n * Nat.pow 10 k.toNat) else (m * Nat.pow 10 (-k).toNat, n)
  let isRead := fun (c : Nat) =>
    (if 0 ≤ k then nearest (c * Nat.pow 10 k.toNat) 1 0 else nearest c (Nat.pow 10 (-k).toNat) 0) = some d
  let near := nearestWhole m n
  let far := if near = m / n then near + 1 else near - 1
  let found := fun (c : Nat) => if c % 10 = 0 then (c / 10, k + 1) else (c, k)
  if isRead near then some (found near) else if isRead far then some (found far) else none

/-- The decimal with the fewest digits that is nearer to `d` than to any other double: digits and places. Seventeen
digits are enough for every double. -/
def shortest (d : Double) : Nat × Int :=
  ((List.range 17).findSome? fun i => d.withDigits? (i + 1)).getD (d.mantissa, d.exponent)

end Double

end Muster.Json
