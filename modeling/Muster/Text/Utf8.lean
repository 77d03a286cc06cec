/-! # UTF-8

The octets of a text and back. An octet is a natural number below 256. Reading tells the characters
apart from the pieces that are none (`pieces`): strict reading refuses a text with such a piece, lenient
reading puts the replacement character in its place, one per longest beginning of a character. -/

namespace Muster.Text

/-- The octets of one character. -/
def utf8Char (c : Char) : List Nat :=
  let n := c.toNat
  if n < 0x80 then [n]
  else if n < 0x800 then [0xC0 + n / 64, 0x80 + n % 64]
  else if n < 0x10000 then [0xE0 + n / 4096, 0x80 + n / 64 % 64, 0x80 + n % 64]
  else [0xF0 + n / 262144, 0x80 + n / 4096 % 64, 0x80 + n / 64 % 64, 0x80 + n % 64]

/-- The octets of a text. -/
def utf8 (s : List Char) : List Nat :=
  s.flatMap utf8Char

/-- A character begun: how many octets it still takes, the range of the next one, and the bits so far. -/
structure Begun where
  owed : Nat
  low : Nat
  high : Nat
  bits : Nat

/-- What an octet is at the start of a character. -/
inductive Lead
  | whole (c : Char)
  | begun (b : Begun)
  | stray

/-- How a character begins. The range of the second octet leaves out forms longer than needed, surrogates
and numbers past U+10FFFF. -/
def lead (b : Nat) : Lead :=
  if b < 0x80 then .whole (Char.ofNat b)
  else if 0xC2 ≤ b && b ≤ 0xDF then .begun ⟨1, 0x80, 0xBF, b % 32⟩
  else if 0xE0 ≤ b && b ≤ 0xEF then
    .begun ⟨2, if b = 0xE0 then 0xA0 else 0x80, if b = 0xED then 0x9F else 0xBF, b % 16⟩
  else if 0xF0 ≤ b && b ≤ 0xF4 then
    .begun ⟨3, if b = 0xF0 then 0x90 else 0x80, if b = 0xF4 then 0x8F else 0xBF, b % 8⟩
  else .stray

/-- The characters of a list of octets after the beginning of one, `none` for each piece that is no
character. -/
def piecesFrom : Option Begun → List Nat → List (Option Char)
  | none, [] => []
  | some _, [] => [none]
  | st, b :: s =>
    let fresh :=
      match lead b with
      | .whole c => some c :: piecesFrom none s
      | .begun p => piecesFrom (some p) s
      | .stray => none :: piecesFrom none s
    match st with
    | none => fresh
    | some p =>
      if p.low ≤ b && b ≤ p.high then
        let bits := p.bits * 64 + b % 64
        if p.owed ≤ 1 then some (Char.ofNat bits) :: piecesFrom none s
        else piecesFrom (some ⟨p.owed - 1, 0x80, 0xBF, bits⟩) s
      else none :: fresh

/-- The characters of a list of octets in order, `none` for each piece that is no character. -/
def pieces (s : List Nat) : List (Option Char) :=
  piecesFrom none s

/-- The text of a list of octets, if every octet belongs to a character. -/
def fromUtf8? (s : List Nat) : Option (List Char) :=
  (pieces s).mapM id

/-- The text of a list of octets, with the replacement character for what is no character. -/
def fromUtf8Lossy (s : List Nat) : List Char :=
  (pieces s).map (·.getD '\uFFFD')

end Muster.Text
