/-! # Punycode

Labels of domain names in ASCII: the ASCII characters of a label, then the others as differences in a base of
36 digits whose thresholds follow the differences read so far. -/

namespace Muster.Url.Punycode

/-- The digit of a number below 36. -/
def digit (n : Nat) : Char :=
  if n < 26 then Char.ofNat (97 + n) else Char.ofNat (22 + n)

/-- The number of a digit. -/
def digit? (c : Char) : Option Nat :=
  if c.isLower then some (c.toNat - 97)
  else if c.isUpper then some (c.toNat - 65)
  else if c.isDigit then some (c.toNat - 22)
  else none

/-- The threshold of the digit at the place `k`. -/
def threshold (bias k : Nat) : Nat :=
  if k ≤ bias + 1 then 1 else if bias + 26 ≤ k then 26 else k - bias

/-- Scales a difference down; `fuel` bounds the rounds. -/
def scale : Nat → Nat → Nat → Nat
  | 0, k, d => k + 36 * d / (d + 38)
  | fuel + 1, k, d => if 455 < d then scale fuel (k + 36) (d / 35) else k + 36 * d / (d + 38)

/-- The bias after the difference `delta`, with `count` characters in place. -/
def adapt (delta count : Nat) (first : Bool) : Nat :=
  let d := if first then delta / 700 else delta / 2
  scale d 0 (d + d / count)

/-- The digits of a difference; `fuel` bounds their number. -/
def digitsFrom : Nat → Nat → Nat → Nat → List Char
  | 0, _, _, _ => []
  | fuel + 1, bias, k, q =>
    let t := threshold bias k
    if q < t then [digit q]
    else digit (t + (q - t) % (36 - t)) :: digitsFrom fuel bias (k + 36) ((q - t) / (36 - t))

/-- An encoding half done: how many characters are in place, the bias, the difference to the next one, and the
digits so far. -/
structure Encoding where
  done : Nat
  bias : Nat
  delta : Nat
  out : List Char

/-- Goes past one character of the label on the round for the code point `n`. -/
def pass (basic n : Nat) (e : Encoding) (c : Char) : Encoding :=
  if c.toNat < n then { e with delta := e.delta + 1 }
  else if c.toNat = n then
    ⟨e.done + 1, adapt e.delta (e.done + 1) (e.done = basic), 0, e.out ++ digitsFrom (e.delta + 1) e.bias 36 e.delta⟩
  else e

/-- One round for each further code point in ascending order; `n` is the least one not yet handled. -/
def rounds (label : List Char) (basic : Nat) : Nat → List Nat → Encoding → Encoding
  | _, [], e => e
  | n, m :: r, e =>
    let e := { e with delta := e.delta + (m - n) * (e.done + 1) }
    let e := label.foldl (pass basic m) e
    rounds label basic (m + 1) r { e with delta := e.delta + 1 }

/-- Puts a number into an ascending list that does not repeat. -/
def insertOnce (n : Nat) : List Nat → List Nat
  | [] => [n]
  | m :: r => if n < m then n :: m :: r else if n = m then m :: r else m :: insertOnce n r

/-- The encoding of a label. -/
def encode (label : List Char) : List Char :=
  let basic := label.filter (·.toNat < 128)
  let others := ((label.filter (128 ≤ ·.toNat)).map Char.toNat).foldr insertOnce []
  let e := rounds label basic.length 128 others ⟨basic.length, 72, 0, []⟩
  basic ++ (if basic.isEmpty then [] else ['-']) ++ e.out

/-- Differences and what they are counted in stay below this. -/
def limit : Nat := 4294967296

/-- Reads one difference and adds it to `value`: the sum and the rest. -/
def readDelta (bias : Nat) : Nat → Nat → Nat → List Char → Option (Nat × List Char)
  | _, _, _, [] => none
  | k, weight, value, c :: r =>
    match digit? c with
    | none => none
    | some d =>
      let t := threshold bias k
      let value := value + d * weight
      if limit ≤ value then none
      else if d < t then some (value, r)
      else if limit ≤ weight * (36 - t) then none
      else readDelta bias (k + 36) (weight * (36 - t)) value r

/-- Puts the characters in place that differences stand for; `fuel` bounds their number. -/
def place : Nat → Bool → Nat → Nat → Nat → List Char → List Char → Option (List Char)
  | _, _, _, _, _, out, [] => some out
  | 0, _, _, _, _, _, _ => none
  | fuel + 1, first, n, i, bias, out, s =>
    match readDelta bias 36 1 i s with
    | none => none
    | some (sum, r) =>
      let count := out.length + 1
      let n := n + sum / count
      let at_ := sum % count
      if n < 0xD800 ∨ (0xE000 ≤ n ∧ n ≤ 0x10FFFF) then
        place fuel false n (at_ + 1) (adapt (sum - i) count first) (out.take at_ ++ Char.ofNat n :: out.drop at_) r
      else none

/-- The label that an encoding stands for. With no character before it, a hyphen parts nothing. -/
def decode? (s : List Char) : Option (List Char) :=
  let behind := (s.reverse.takeWhile (· ≠ '-')).reverse
  let basic := (s.take (s.length - behind.length)).dropLast
  if basic.isEmpty then place s.length true 128 0 72 [] s
  else if basic.all (·.toNat < 128) then place behind.length true 128 0 72 basic behind
  else none

end Muster.Url.Punycode
