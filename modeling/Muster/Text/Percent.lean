import Muster.Json.Token
import Muster.Text.Utf8

/-! # Percent encoding

Characters of a set are written as their octets, each as a percent sign and two hexadecimal digits. Decoding
gives octets back; a percent sign that no two digits follow stands for itself. -/

namespace Muster.Text

/-- The capital digit of a number below 16. -/
def hexCapital (n : Nat) : Char :=
  if n < 10 then Char.ofNat (48 + n) else Char.ofNat (55 + n)

/-- An octet as a percent sign and two digits. -/
def percentOctet (b : Nat) : List Char :=
  ['%', hexCapital (b / 16), hexCapital (b % 16)]

/-- A character, encoded if the set has it. -/
def percentChar (set : Char → Bool) (c : Char) : List Char :=
  if set c then (utf8Char c).flatMap percentOctet else [c]

/-- A text with the characters of the set encoded. -/
def percentEncode (set : Char → Bool) (s : List Char) : List Char :=
  s.flatMap (percentChar set)

/-- The octets that a text stands for. -/
def percentDecode : List Char → List Nat
  | [] => []
  | '%' :: a :: b :: r =>
    match Json.hexDigit? a, Json.hexDigit? b with
    | some x, some y => (x * 16 + y) :: percentDecode r
    | _, _ => 0x25 :: percentDecode (a :: b :: r)
  | c :: r => utf8Char c ++ percentDecode r

/-- Control characters and everything past ASCII. -/
def isControlOrForeign (c : Char) : Bool :=
  c.toNat < 0x20 || 0x7E < c.toNat

/-- What is encoded in a fragment. -/
def inFragmentSet (c : Char) : Bool :=
  isControlOrForeign c || [' ', '"', '<', '>', '\x60'].contains c

/-- What is encoded in a query; `quote` says whether the apostrophe is. -/
def inQuerySet (quote : Bool) (c : Char) : Bool :=
  isControlOrForeign c || [' ', '"', '#', '<', '>'].contains c || (quote && c = '\'')

/-- What is encoded in a path. -/
def inPathSet (c : Char) : Bool :=
  inFragmentSet c || ['#', '?', '\x7b', '\x7d'].contains c

/-- What is encoded in one segment of a path; `backslash` says whether the backslash is. -/
def inSegmentSet (backslash : Bool) (c : Char) : Bool :=
  inPathSet c || ['/', '%'].contains c || (backslash && c = '\\')

/-- What is encoded in a user name and password. -/
def inUserinfoSet (c : Char) : Bool :=
  inPathSet c || ['/', ':', ';', '=', '@', '[', '\\', ']', '^', '|'].contains c

end Muster.Text
