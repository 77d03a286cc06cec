import Muster.Json.Printer

/-! # Durations

A span of time in whole nanoseconds, and its text: the largest unit with a whole part, and the fraction
without final zeros, never rounded. -/

namespace Muster

/-- A span of time. -/
structure Duration where
  nanos : Nat
  deriving DecidableEq, Repr

namespace Duration

instance : LT Duration := ⟨fun a b => a.nanos < b.nanos⟩
instance : LE Duration := ⟨fun a b => a.nanos ≤ b.nanos⟩
instance (a b : Duration) : Decidable (a < b) := inferInstanceAs (Decidable (a.nanos < b.nanos))
instance (a b : Duration) : Decidable (a ≤ b) := inferInstanceAs (Decidable (a.nanos ≤ b.nanos))

/-- `n` milliseconds. -/
def ofMillis (n : Nat) : Duration := ⟨n * 1000000⟩

/-- `n` seconds. -/
def ofSeconds (n : Nat) : Duration := ⟨n * 1000000000⟩

/-- The whole milliseconds. -/
def millis (d : Duration) : Nat := d.nanos / 1000000

/-- The whole seconds. -/
def seconds (d : Duration) : Nat := d.nanos / 1000000000

/-- The decimal digits of `n`, with zeros in front up to `width`. -/
def padded (width n : Nat) : List Char :=
  let ds := Json.printNat n
  List.replicate (width - ds.length) '0' ++ ds

/-- A text without the zeros at its end. -/
def withoutFinalZeros (ds : List Char) : List Char :=
  (ds.reverse.dropWhile (· = '0')).reverse

/-- The text of `n` nanoseconds in a unit of `size` of them, whose fraction has at most `places` digits. -/
def inUnit (n size places : Nat) (unit : List Char) : List Char :=
  let fraction := withoutFinalZeros (padded places (n % size))
  Json.printNat (n / size) ++ (if fraction.isEmpty then [] else '.' :: fraction) ++ unit

/-- The text of a duration. -/
def text (d : Duration) : String :=
  String.ofList <|
    if 1000000000 ≤ d.nanos then inUnit d.nanos 1000000000 9 ['s']
    else if 1000000 ≤ d.nanos then inUnit d.nanos 1000000 6 ['m', 's']
    else if 1000 ≤ d.nanos then inUnit d.nanos 1000 3 ['µ', 's']
    else inUnit d.nanos 1 0 ['n', 's']

end Duration

end Muster
