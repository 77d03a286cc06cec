import Muster.Text.Blank
import Muster.Time.Calendar
import Muster.Time.Duration

/-! # Points in time

A point in time in universal time, to the nanosecond, and its text by RFC 3339. A leap second is the last
second of its minute with more than a thousand million nanoseconds. -/

namespace Muster

/-- A point in universal time. -/
structure Timestamp where
  date : Date
  /-- The minute of the day. -/
  minute : Nat
  second : Nat
  nanos : Nat
  deriving DecidableEq, Repr

namespace Timestamp

/-- The point `n` nanoseconds after the beginning of 1970. -/
def ofUnixNanos (n : Nat) : Timestamp :=
  let seconds := n / 1000000000
  ⟨.ofDays (seconds / 86400), seconds % 86400 / 60, seconds % 60, n % 1000000000⟩

/-- A year in at least four digits; one outside of 0 to 9999 has a sign. -/
def printYear (y : Int) : List Char :=
  if 0 ≤ y ∧ y ≤ 9999 then Duration.padded 4 y.toNat
  else (if y < 0 then '-' else '+') :: Duration.padded 4 y.natAbs

/-- The fraction of a second in the fewest groups of three digits. -/
def printFraction (nanos : Nat) : List Char :=
  if nanos = 0 then []
  else if nanos % 1000000 = 0 then '.' :: Duration.padded 3 (nanos / 1000000)
  else if nanos % 1000 = 0 then '.' :: Duration.padded 6 (nanos / 1000)
  else '.' :: Duration.padded 9 nanos

/-- The text of a point in time. -/
def print (t : Timestamp) : List Char :=
  let leap := 1000000000 ≤ t.nanos
  let second := if leap then t.second + 1 else t.second
  let nanos := if leap then t.nanos - 1000000000 else t.nanos
  printYear t.date.year ++ '-' :: Duration.padded 2 t.date.month ++ '-' :: Duration.padded 2 t.date.day ++
    'T' :: Duration.padded 2 (t.minute / 60) ++ ':' :: Duration.padded 2 (t.minute % 60) ++
    ':' :: Duration.padded 2 second ++ printFraction nanos ++ ['Z']

/-- The text of a point in time. -/
def text (t : Timestamp) : String :=
  String.ofList t.print

/-- Reads one to `width` digits. -/
def readDigits (width : Nat) (s : List Char) : Option (Nat × List Char) :=
  let ds := (s.take width).takeWhile Char.isDigit
  if ds.isEmpty then none
  else some (ds.foldl (fun n c => n * 10 + (c.toNat - 48)) 0, s.drop ds.length)

/-- Reads a number of at most two digits, behind blanks. -/
def readPart (s : List Char) : Option (Nat × List Char) :=
  readDigits 2 (Text.trimStart s)

/-- Reads a year behind blanks: at most four digits, or any number of them behind a sign. -/
def readYear (s : List Char) : Option (Int × List Char) :=
  match Text.trimStart s with
  | '-' :: r => (readDigits r.length r).map (fun (n, r) => (-(n : Int), r))
  | '+' :: r => (readDigits r.length r).map (fun (n, r) => ((n : Int), r))
  | s => (readDigits 4 s).map (fun (n, r) => ((n : Int), r))

/-- Skips blanks and reads the character `c`. -/
def readMark (c : Char) (s : List Char) : Option (List Char) :=
  match Text.trimStart s with
  | d :: r => if d = c then some r else none
  | [] => none

/-- Reads the fraction of a second in nanoseconds; digits past the ninth are dropped. -/
def readFraction : List Char → Option (Nat × List Char)
  | '.' :: r =>
    let ds := r.takeWhile Char.isDigit
    if ds.isEmpty then none
    else
      let nine := (ds ++ List.replicate 9 '0').take 9
      some (nine.foldl (fun n c => n * 10 + (c.toNat - 48)) 0, r.dropWhile Char.isDigit)
  | s => some (0, s)

/-- Reads two digits. -/
def readTwo : List Char → Option (Nat × List Char)
  | a :: b :: r =>
    if a.isDigit && b.isDigit then some ((a.toNat - 48) * 10 + (b.toNat - 48), r) else none
  | _ => none

/-- Reads the offset from universal time in minutes: `Z`, `UTC`, or a sign, hours and minutes. -/
def readOffset (s : List Char) : Option (Int × List Char) :=
  match s with
  | [] => none
  | c :: r =>
    if c = 'Z' || c = 'z' then some (0, r)
    else if (s.take 3).map Char.toUpper = ['U', 'T', 'C'] then some (0, s.drop 3)
    else
      let sign : Option Int := if c = '+' then some 1 else if c = '-' || c = '−' then some (-1) else none
      do
        let sign ← sign
        let (hours, r) ← readTwo r
        let (minutes, r) ← readTwo (r.dropWhile (fun c => c = ':' || Text.isBlank c))
        if minutes < 60 ∧ hours < 24 then return (sign * (hours * 60 + minutes : Nat), r) else none

/-- The point in time at a local minute of a day, `offset` minutes ahead of universal time. -/
def ofLocal (date : Date) (minute : Nat) (offset : Int) (second nanos : Nat) : Timestamp :=
  let m := (minute : Int) - offset
  if m < 0 then ⟨date.previous, (m + 1440).toNat, second, nanos⟩
  else if 1440 ≤ m then ⟨date.next, (m - 1440).toNat, second, nanos⟩
  else ⟨date, m.toNat, second, nanos⟩

/-- The years that points in time may lie in. -/
def hasYear (y : Int) : Bool :=
  -262143 ≤ y && y ≤ 262142

/-- Reads a point in time. Blanks may stand before each number and sign, and at the end. -/
def read? (s : List Char) : Option Timestamp := do
  let (year, s) ← readYear s
  let s ← readMark '-' s
  let (month, s) ← readPart s
  let s ← readMark '-' s
  let (day, s) ← readPart s
  let s ←
    match s with
    | c :: r => if c = 'T' || c = 't' || c = ' ' then some r else none
    | [] => none
  let (hour, s) ← readPart s
  let s ← readMark ':' s
  let (minute, s) ← readPart s
  let s ← readMark ':' s
  let (second, s) ← readPart s
  let (nanos, s) ← readFraction s
  let (offset, s) ← readOffset (Text.trimStart s)
  let date : Date := ⟨year, month, day⟩
  let nanos := if second = 60 then nanos + 1000000000 else nanos
  let t := ofLocal date (hour * 60 + minute) offset (min second 59) nanos
  if (Text.trimStart s).isEmpty && date.isValid && hasYear year && hour < 24 && minute < 60 && second ≤ 60 &&
      hasYear t.date.year then
    return t
  else none

end Timestamp

end Muster
