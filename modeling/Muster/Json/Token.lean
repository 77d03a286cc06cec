import Muster.Json.Basic

/-! # Tokens of a JSON text

A text is cut into tokens up to the first place where none can be read; there the list ends with `broken`.
A string that holds half of a surrogate pair and a number past the range of doubles are read but have no
content: only what is skipped may hold one. -/

namespace Muster.Json

/-- One token. -/
inductive Token
  | openArray
  | closeArray
  | openObject
  | closeObject
  | colon
  | comma
  | null
  | bool (b : Bool)
  | number (n : Option Number)
  | string (s : Option String)
  | broken
  deriving DecidableEq

/-- White space between tokens. -/
def isSpace (c : Char) : Bool :=
  c = ' ' || c = '\n' || c = '\t' || c = '\r'

/-- The value of a hexadecimal digit. -/
def hexDigit? (c : Char) : Option Nat :=
  if '0' ≤ c && c ≤ '9' then some (c.toNat - 48)
  else if 'a' ≤ c && c ≤ 'f' then some (c.toNat - 87)
  else if 'A' ≤ c && c ≤ 'F' then some (c.toNat - 55)
  else none

/-- The character that a backslash and `c` stand for. -/
def unescape? (c : Char) : Option Char :=
  match c with
  | '"' => some '"'
  | '\\' => some '\\'
  | '/' => some '/'
  | 'b' => some '\x08'
  | 'f' => some '\x0c'
  | 'n' => some '\n'
  | 'r' => some '\r'
  | 't' => some '\t'
  | _ => none

/-- Where a string has got to: between characters, after a backslash, among the four digits of an escape, or
after the first half of a pair, whose second half must follow at once. -/
inductive StringState
  | plain
  | escape
  | digits (count value : Nat)
  deriving DecidableEq

/-- Puts the unit `n` of an escape after the text read so far. `pending` is a first half that waits for its
second; a half without its partner spoils the text. -/
def addUnit (pending : Option Nat) (text : Option (List Char)) (n : Nat) : Option Nat × Option (List Char) :=
  if 0xD800 ≤ n ∧ n < 0xDC00 then (some n, if pending.isSome then none else text)
  else if 0xDC00 ≤ n ∧ n < 0xE000 then
    match pending with
    | some h => (none, text.map (Char.ofNat (0x10000 + (h - 0xD800) * 0x400 + (n - 0xDC00)) :: ·))
    | none => (none, none)
  else (none, if pending.isSome then none else text.map (Char.ofNat n :: ·))

/-- Puts a character after the text read so far; a first half that waits is spoilt by it. -/
def addChar (pending : Option Nat) (text : Option (List Char)) (c : Char) : Option (List Char) :=
  if pending.isSome then none else text.map (c :: ·)

/-- Reads a string behind its opening quote: its content and the rest of the text. `text` is the content so
far, backwards; it is lost where halves of pairs stand alone. -/
def readString : StringState → Option Nat → Option (List Char) → List Char → Option (Option String × List Char)
  | _, _, _, [] => none
  | .plain, pending, text, c :: r =>
    if c = '"' then
      some (if pending.isSome then none else text.map (fun t => String.ofList t.reverse), r)
    else if c = '\\' then readString .escape pending text r
    else if c.toNat < 0x20 then none
    else readString .plain none (addChar pending text c) r
  | .escape, pending, text, c :: r =>
    if c = 'u' then readString (.digits 0 0) pending text r
    else
      match unescape? c with
      | some d => readString .plain none (addChar pending text d) r
      | none => none
  | .digits count value, pending, text, c :: r =>
    match hexDigit? c with
    | none => none
    | some d =>
      let n := value * 16 + d
      if count < 3 then readString (.digits (count + 1) n) pending text r
      else
        let (pending, text) := addUnit pending text n
        readString .plain pending text r

/-- The number that decimal digits write. -/
def digitsValue (ds : List Char) : Nat :=
  ds.foldl (fun n c => n * 10 + (c.toNat - 48)) 0

/-- Takes digits as long as the number they write fits 64 bits: the number, and how many digits were taken. -/
def takeDigits (n : Nat) : List Char → Nat × Nat
  | [] => (n, 0)
  | c :: r =>
    let m := n * 10 + (c.toNat - 48)
    if m < 18446744073709551616 then
      let (total, count) := takeDigits m r
      (total, count + 1)
    else (n, 0)

/-- The number with the given parts; `none` where it has no double. Digits past 64 bits count as zeros. -/
def Number.ofParts (negative : Bool) (whole fraction : List Char) (exponent : Option Int) : Option Number :=
  let n : Int := if negative then -digitsValue whole else digitsValue whole
  let asDouble : Option Number :=
    let (front, m) := takeDigits 0 whole
    let (digits, k) := takeDigits front fraction
    (Double.ofDecimal? digits (exponent.getD 0 + (whole.length - m) - k)).map (.double negative)
  if fraction.isEmpty && exponent.isNone && !(negative && n = 0) then
    match Whole.ofInt? n with
    | some w => some (.whole w)
    | none => asDouble
  else asDouble

/-- Reads the fraction of a number: none, or a point and at least one digit. -/
def readFraction : List Char → Option (List Char × List Char)
  | '.' :: r =>
    let ds := r.takeWhile Char.isDigit
    if ds.isEmpty then none else some (ds, r.dropWhile Char.isDigit)
  | s => some ([], s)

/-- Reads the exponent of a number: none, or the letter, a sign if there is one, and at least one digit. -/
def readExponent : List Char → Option (Option Int × List Char)
  | [] => some (none, [])
  | c :: r =>
    if c = 'e' || c = 'E' then
      let negative := r.head? = some '-'
      let r := if negative || r.head? = some '+' then r.tail else r
      let ds := r.takeWhile Char.isDigit
      if ds.isEmpty then none
      else
        let n : Int := digitsValue ds
        some (some (if negative then -n else n), r.dropWhile Char.isDigit)
    else some (none, c :: r)

/-- Reads a number from its first character on. A zero is followed by no digit. -/
def readNumber (s : List Char) : Option (Option Number × List Char) := do
  let negative := s.head? = some '-'
  let s := if negative then s.tail else s
  let whole := s.takeWhile Char.isDigit
  if whole.isEmpty || (whole.head? = some '0' && whole.length > 1) then none
  else
    let (fraction, s) ← readFraction (s.dropWhile Char.isDigit)
    let (exponent, s) ← readExponent s
    return (Number.ofParts negative whole fraction exponent, s)

/-- The token of a text's first characters and what follows it. -/
def readToken (c : Char) (r : List Char) : Option (Token × List Char) :=
  match c, r with
  | '[', r => some (.openArray, r)
  | ']', r => some (.closeArray, r)
  | '{', r => some (.openObject, r)
  | '}', r => some (.closeObject, r)
  | ':', r => some (.colon, r)
  | ',', r => some (.comma, r)
  | 'n', 'u' :: 'l' :: 'l' :: r => some (.null, r)
  | 't', 'r' :: 'u' :: 'e' :: r => some (.bool true, r)
  | 'f', 'a' :: 'l' :: 's' :: 'e' :: r => some (.bool false, r)
  | '"', r => (readString .plain none (some []) r).map (fun (s, r) => (.string s, r))
  | c, r =>
    if c = '-' || c.isDigit then (readNumber (c :: r)).map (fun (n, r) => (.number n, r)) else none

/-- The tokens of a text; `fuel` bounds their number. -/
def tokensFrom : Nat → List Char → List Token
  | 0, _ => []
  | _ + 1, [] => []
  | fuel + 1, c :: r =>
    if isSpace c then tokensFrom fuel r
    else
      match readToken c r with
      | some (t, r) => t :: tokensFrom fuel r
      | none => [.broken]

/-- The tokens of a text. Every token takes a character, so the length of the text bounds their number. -/
def tokens (s : List Char) : List Token :=
  tokensFrom s.length s

end Muster.Json
