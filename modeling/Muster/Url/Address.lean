import Muster.Json.Printer
import Muster.Json.Token
import Muster.Text.Split

/-! # Addresses

IPv4 and IPv6 addresses as hosts of URLs: the texts that are read as one, and the one text each is written as. -/

namespace Muster.Url

/-- The number that a text of digits writes, if it is one. -/
def number? (base : Nat) (s : List Char) : Option Nat :=
  s.foldl (fun acc c => do
    let n ← acc
    let d ← Json.hexDigit? c
    if d < base then some (n * base + d) else none) (some 0)

/-- The number of one part of an IPv4 address: hexadecimal behind `0x`, octal behind `0`, else decimal. -/
def ipv4Part? (s : List Char) : Option Nat :=
  match s with
  | [] => none
  | '0' :: 'x' :: r => number? 16 r
  | '0' :: 'X' :: r => number? 16 r
  | '0' :: c :: r => number? 8 (c :: r)
  | s => number? 10 s

/-- The parts of a domain, without an empty last one. -/
def domainParts (s : List Char) : List (List Char) :=
  let parts := Text.split '.' s
  if parts.getLast? = some [] then parts.dropLast else parts

/-- A domain whose last part is a number is meant as an IPv4 address. -/
def endsInNumber (s : List Char) : Bool :=
  match (domainParts s).getLast? with
  | none => false
  | some last => (!last.isEmpty && last.all Char.isDigit) || (ipv4Part? last).isSome

/-- Reads an IPv4 address: up to four parts, of which the last one fills what the others leave. -/
def readIpv4 (s : List Char) : Option Nat := do
  let parts ← (domainParts s).mapM ipv4Part?
  let last ← parts.getLast?
  let front := parts.dropLast
  if parts.length ≤ 4 ∧ front.all (· < 256) ∧ last < Nat.pow 256 (4 - front.length) then
    return front.foldl (fun n p => n * 256 + p) 0 * Nat.pow 256 (4 - front.length) + last
  else none

/-- The text of an IPv4 address. -/
def printIpv4 (n : Nat) : List Char :=
  Json.printNat (n / 16777216 % 256) ++ '.' :: Json.printNat (n / 65536 % 256) ++
    '.' :: Json.printNat (n / 256 % 256) ++ '.' :: Json.printNat (n % 256)

/-- The two groups of an IPv4 address within an IPv6 address: four decimal numbers without leading zeros. -/
def ipv4Groups? (s : List Char) : Option (List Nat) := do
  let numbers ← (Text.split '.' s).mapM fun p =>
    if p.isEmpty || p.length > 3 || p.any (!·.isDigit) || (p.length > 1 && p.head? = some '0') then none
    else
      let n := Json.digitsValue p
      if n < 256 then some n else none
  match numbers with
  | [a, b, c, d] => return [a * 256 + b, c * 256 + d]
  | _ => none

/-- The groups that one piece between colons stands for; only the last piece may be an IPv4 address. -/
def groups? : List (List Char) → Option (List Nat)
  | [] => some []
  | p :: r =>
    if p.contains '.' then (if r.isEmpty then ipv4Groups? p else none)
    else if p.isEmpty || p.length > 4 then none
    else do
      let n ← number? 16 p
      let ns ← groups? r
      return n :: ns

/-- The parts of a text before and behind the first two colons in a row. -/
def cutDouble : List Char → Option (List Char × List Char)
  | [] => none
  | ':' :: ':' :: r => some ([], r)
  | c :: r => (cutDouble r).map fun (a, b) => (c :: a, b)

/-- The groups between colons of a text that may be empty. -/
def sideGroups? (s : List Char) : Option (List Nat) :=
  if s.isEmpty then some [] else groups? (Text.split ':' s)

/-- Reads the eight groups of an IPv6 address; two colons stand for one or more groups of zero. -/
def readIpv6 (s : List Char) : Option (List Nat) :=
  match cutDouble s with
  | none => do
    let gs ← sideGroups? s
    if gs.length = 8 then return gs else none
  | some (front, back) => do
    let fs ← if front.contains '.' then none else sideGroups? front
    let bs ← sideGroups? back
    if fs.length + bs.length < 8 then return fs ++ List.replicate (8 - fs.length - bs.length) 0 ++ bs else none

/-- The lengths of the runs of zeros that begin at each group. -/
def zeroRuns : List Nat → List Nat
  | [] => []
  | g :: r => (if g = 0 then (zeroRuns r).headD 0 + 1 else 0) :: zeroRuns r

/-- The hexadecimal digits of a number. -/
def printHex (n : Nat) : List Char := Nat.toDigits 16 n

/-- Groups joined by colons. -/
def printGroups (gs : List Nat) : List Char :=
  Json.sepBy [':'] (gs.map printHex)

/-- The text of an IPv6 address: two colons stand for the first of the longest runs of at least two zeros. -/
def printIpv6 (gs : List Nat) : List Char :=
  let runs := zeroRuns gs
  let longest := runs.foldl max 0
  if longest < 2 then printGroups gs
  else
    let start := runs.findIdx (· = longest)
    printGroups (gs.take start) ++ [':', ':'] ++ printGroups (gs.drop (start + longest))

end Muster.Url
