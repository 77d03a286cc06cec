import Muster.Json.Basic

/-! # Writing values

The shortest form of a value: no blanks, and in strings only quotes, backslashes and control characters are
escaped. -/

namespace Muster.Json

/-- The digit of a number below 16. -/
def hexChar (n : Nat) : Char :=
  if n < 10 then Char.ofNat (48 + n) else Char.ofNat (87 + n)

/-- A character as it stands in a string. -/
def escapeChar (c : Char) : List Char :=
  if c = '"' then ['\\', '"']
  else if c = '\\' then ['\\', '\\']
  else if c = '\x08' then ['\\', 'b']
  else if c = '\x0c' then ['\\', 'f']
  else if c = '\n' then ['\\', 'n']
  else if c = '\r' then ['\\', 'r']
  else if c = '\t' then ['\\', 't']
  else if c.toNat < 0x20 then ['\\', 'u', '0', '0', hexChar (c.toNat / 16), hexChar (c.toNat % 16)]
  else [c]

/-- A string in quotes. -/
def printString (s : String) : List Char :=
  '"' :: (s.toList.flatMap escapeChar ++ ['"'])

/-- The decimal digits of a natural number. -/
def printNat (n : Nat) : List Char :=
  Nat.toDigits 10 n

/-- An integer. -/
def printInt : Int → List Char
  | .ofNat n => printNat n
  | .negSucc n => '-' :: printNat (n + 1)

/-- A double: with a point up to sixteen places before it and from the fifth behind it, otherwise with an exponent. It
is never written as a whole number, so that it is read as a double again. -/
def Double.print (d : Double) : List Char :=
  if d.mantissa = 0 then ['0', '.', '0']
  else
    let (m, k) := d.shortest
    let digits := printNat m
    let places := digits.length + k
    if 0 ≤ k ∧ places ≤ 16 then digits ++ List.replicate k.toNat '0' ++ ['.', '0']
    else if 0 < places ∧ places ≤ 16 then digits.take places.toNat ++ '.' :: digits.drop places.toNat
    else if -5 < places ∧ places ≤ 0 then '0' :: '.' :: (List.replicate (-places).toNat '0' ++ digits)
    else
      digits.take 1 ++ (if digits.length = 1 then [] else '.' :: digits.drop 1) ++ 'e' :: printInt (places - 1)

/-- A number. -/
def Number.print : Number → List Char
  | .whole n => printInt n.val
  | .double negative d => (if negative then ['-'] else []) ++ d.print

/-- Texts joined with a separator between any two. -/
def sepBy (sep : List Char) : List (List Char) → List Char
  | [] => []
  | [t] => t
  | t :: r => t ++ sep ++ sepBy sep r

mutual

/-- The text of a value. -/
def Value.print : Value → List Char
  | .null => ['n', 'u', 'l', 'l']
  | .bool true => ['t', 'r', 'u', 'e']
  | .bool false => ['f', 'a', 'l', 's', 'e']
  | .number n => n.print
  | .string s => printString s
  | .array items => '[' :: (sepBy [','] (printItems items) ++ [']'])
  | .object fields => '{' :: (sepBy [','] (printFields fields) ++ ['}'])

/-- The texts of the items of an array. -/
def Value.printItems : List Value → List (List Char)
  | [] => []
  | v :: r => v.print :: printItems r

/-- The texts of the fields of an object, each with its name. -/
def Value.printFields : List (String × Value) → List (List Char)
  | [] => []
  | (k, v) :: r => (printString k ++ ':' :: v.print) :: printFields r

end

/-- The text of a value. -/
def Value.text (v : Value) : String :=
  String.ofList v.print

end Muster.Json
