import Muster.Json.Draft
import Muster.Text.Utf8

/-! # Reading documents

A decoder takes a draft for a document of its type. Of two faults the one that stands first in the text
counts: the text breaks off there (`malformed`), or it holds something else than the document asks for there
(`mismatch`). Arrays and objects that are read nest at most as deep as `room` allows; what is skipped may nest
without limit and may hold strings and numbers without content.

A record is read from an object, where unknown fields are skipped and a known one occurs at most once, or
from an array of its fields in order. -/

namespace Muster.Json

/-- Why a text is not the document asked for. -/
inductive Fault
  | malformed
  | mismatch
  deriving DecidableEq, Repr

/-- Reads a draft, within the given number of further levels. -/
abbrev Decoder (α : Type) := Nat → Draft → Except Fault α

/-- The arrays and objects of a document nest at most this deep. -/
def maxDepth : Nat := 127

/-- The fault of a draft that stands where something else is asked for: a token that cannot be read is
malformed whatever is asked for. -/
def otherwise {α : Type} : Draft → Except Fault α
  | .cut | .string none | .number none => .error .malformed
  | _ => .error .mismatch

/-- Skips a value. -/
def skip : Decoder Unit := fun _ d =>
  if d.intact then .ok () else .error .malformed

/-- Reads a text. -/
def readText : Decoder String := fun _ d =>
  match d with
  | .string (some s) => .ok s
  | d => otherwise d

/-- Reads a truth value. -/
def readBool : Decoder Bool := fun _ d =>
  match d with
  | .bool b => .ok b
  | d => otherwise d

/-- Reads a natural number of 64 bits. -/
def readNat : Decoder Nat := fun _ d =>
  match d with
  | .number (some (.whole n)) => if 0 ≤ n.val then .ok n.val.toNat else .error .mismatch
  | d => otherwise d

/-- Reads a value or null. -/
def readOption {α : Type} (read : Decoder α) : Decoder (Option α) := fun room d =>
  match d with
  | .null => .ok none
  | d => (read room d).map some

/-- Reads a list. -/
def readList {α : Type} (read : Decoder α) : Decoder (List α) := fun room d =>
  match d, room with
  | .array _, 0 => .error .malformed
  | .array items, room + 1 => items.mapM (read room)
  | d, _ => otherwise d

mutual

/-- Reads any value. -/
def readValue : Decoder Value
  | _, .null => .ok .null
  | _, .bool b => .ok (.bool b)
  | _, .number (some n) => .ok (.number n)
  | _, .string (some s) => .ok (.string s)
  | 0, .array _ => .error .malformed
  | room + 1, .array items => (readItems room items).map .array
  | 0, .object _ => .error .malformed
  | room + 1, .object fields => (readFields room fields).map (fun fs => .object (lastFields fs))
  | _, _ => .error .malformed

/-- Reads the items of an array. -/
def readItems : Nat → List Draft → Except Fault (List Value)
  | _, [] => .ok []
  | room, d :: r => do
    let v ← readValue room d
    let vs ← readItems room r
    return v :: vs

/-- Reads the fields of an object. -/
def readFields : Nat → List (Option String × Draft) → Except Fault (List (String × Value))
  | _, [] => .ok []
  | _, (none, _) :: _ => .error .malformed
  | room, (some k, d) :: r => do
    let v ← readValue room d
    let vs ← readFields room r
    return (k, v) :: vs

end

/-- Reads the fields of an object of any names, the last of equal names. -/
def readObject : Decoder (List (String × Value)) := fun room d =>
  match d, room with
  | .object _, 0 => .error .malformed
  | .object fields, room + 1 => (readFields room fields).map lastFields
  | d, _ => otherwise d

/-- What a record of type `α` is read from: the names of its fields in order, each with a check of what
stands there, and how the record is put together from what is found under each name. -/
structure Fields (α : Type) where
  checks : List (String × Decoder Unit)
  build : Nat → (String → Option Draft) → Except Fault α

namespace Fields

/-- A record without fields. -/
def pure {α : Type} (a : α) : Fields α := ⟨[], fun _ _ => .ok a⟩

/-- A further field that may be missing if there is a default for it. -/
def field {α β : Type} (fs : Fields (α → β)) (name : String) (read : Decoder α) (default? : Option α) : Fields β where
  checks := fs.checks ++ [(name, fun room d => (read room d).map fun _ => ())]
  build room find := do
    let f ← fs.build room find
    match find name, default? with
    | some d, _ => (read room d).map f
    | none, some a => return f a
    | none, none => .error .mismatch

/-- A further field that must be there. -/
def required {α β : Type} (fs : Fields (α → β)) (name : String) (read : Decoder α) : Fields β :=
  fs.field name read none

/-- A further field that reads as `default` where it is missing. -/
def optional {α β : Type} (fs : Fields (α → β)) (name : String) (read : Decoder α) (default : α) : Fields β :=
  fs.field name read (some default)

/-- Checks the fields of an object in the order of the text. `seen` are the known names so far. -/
def checkObject (checks : List (String × Decoder Unit)) (room : Nat) :
    List String → List (Option String × Draft) → Except Fault Unit
  | _, [] => .ok ()
  | _, (none, _) :: _ => .error .malformed
  | seen, (some k, d) :: r =>
    match checks.lookup k with
    | none => do
      skip room d
      checkObject checks room seen r
    | some check =>
      if seen.contains k then .error .mismatch
      else do
        check room d
        checkObject checks room (k :: seen) r

/-- Checks the items of an array against the fields in order. Items left over are no end of the array. -/
def checkArray (room : Nat) : List (String × Decoder Unit) → List Draft → Except Fault Unit
  | _, [] => .ok ()
  | [], _ :: _ => .error .malformed
  | (_, check) :: cs, d :: r => do
    check room d
    checkArray room cs r

/-- Reads a record. -/
def read {α : Type} (fs : Fields α) : Decoder α := fun room d =>
  match d, room with
  | .object _, 0 | .array _, 0 => .error .malformed
  | .object fields, room + 1 => do
    checkObject fs.checks room [] fields
    fs.build room (fun name => fields.lookup (some name))
  | .array items, room + 1 =>
    let given := (fs.checks.map (·.1)).zip items
    do
      checkArray room fs.checks items
      fs.build room (fun name => given.lookup name)
  | d, _ => otherwise d

end Fields

/-- Reads the beginning of a text as a document, whatever is behind it. -/
def decodeFront {α : Type} (read : Decoder α) (s : String) : Except Fault α :=
  read maxDepth (readDraft s.toList).1

/-- Reads a text as a document, with nothing behind it. -/
def decode {α : Type} (read : Decoder α) (s : String) : Except Fault α :=
  let (d, leftOver) := readDraft s.toList
  match read maxDepth d with
  | .error f => .error f
  | .ok a => if leftOver then .error .malformed else .ok a

/-- Where a text has got to: between strings, in one, or behind a backslash in one. -/
inductive StringPlace
  | between
  | within
  | escaped

/-- Two second halves of surrogate pairs, of which at least one lacks its first half. -/
def loneHalves : List Char := "\\udc00\\udc00".toList

/-- The text of a document in pieces. Octets of no character leave a string without content, as lone halves of pairs do.
Where they are not in a string nothing can be read, as little as at a zero character. -/
def mend : StringPlace → List (Option Char) → List Char
  | _, [] => []
  | .within, none :: r => loneHalves ++ mend .within r
  | _, none :: _ => ['\x00']
  | .between, some c :: r => c :: mend (if c = '"' then .within else .between) r
  | .within, some c :: r => c :: mend (if c = '"' then .between else if c = '\\' then .escaped else .within) r
  | .escaped, some c :: r => c :: mend .within r

/-- Reads octets as a document, with nothing behind it. -/
def decodeOctets {α : Type} (read : Decoder α) (s : List Nat) : Except Fault α :=
  decode read (String.ofList (mend .between (Text.pieces s)))

/-- Reads a value as a document. -/
def Value.decodeAs {α : Type} (read : Decoder α) (v : Value) : Except Fault α :=
  read v.depth v.draft

end Muster.Json
