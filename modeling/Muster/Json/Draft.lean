import Muster.Json.Token

/-! # What a JSON text says

A text is read into a draft: the value it spells as far as it can be read, with every field in its place and
`cut` where the text breaks off. A draft keeps what readers of documents differ about: repeated fields,
strings and numbers without content, and how far a broken text had got. -/

namespace Muster.Json

/-- What a text says, as far as it can be read. -/
inductive Draft
  | null
  | bool (b : Bool)
  | number (n : Option Number)
  | string (s : Option String)
  | array (items : List Draft)
  | object (fields : List (Option String × Draft))
  | cut

instance : Inhabited Draft := ⟨.cut⟩

/-- An array or object that is still open: what it holds so far, backwards. An object that has read a key
holds it until its value is there. -/
inductive Frame
  | array (items : List Draft)
  | object (fields : List (Option String × Draft)) (key : Option (Option String))

/-- What may come next. -/
inductive Expect
  /-- A value, or the end of the array just opened. -/
  | firstItem
  /-- A key, or the end of the object just opened. -/
  | firstKey
  | value
  | key
  | colon
  /-- A comma or the end of what is open. -/
  | afterItem
  /-- Nothing: the value is complete. -/
  | nothing
  deriving DecidableEq

/-- A text half read: what is open, innermost first, what may come next, and the value once it is complete. -/
structure Reading where
  frames : List Frame
  expect : Expect
  result : Draft

namespace Reading

/-- Before the first token. -/
def start : Reading := ⟨[], .value, .cut⟩

/-- Takes a complete value. -/
def put (v : Draft) : List Frame → Reading
  | [] => ⟨[], .nothing, v⟩
  | .array items :: fs => ⟨.array (v :: items) :: fs, .afterItem, .cut⟩
  | .object fields key :: fs => ⟨.object ((key.getD none, v) :: fields) none :: fs, .afterItem, .cut⟩

/-- The value that a token is by itself. -/
def scalar? : Token → Option Draft
  | .null => some .null
  | .bool b => some (.bool b)
  | .number n => some (.number n)
  | .string s => some (.string s)
  | _ => none

/-- Takes one token; `none` where it must not stand. -/
def step (r : Reading) (t : Token) : Option Reading :=
  match r.expect, t, r.frames with
  | .firstItem, .closeArray, .array items :: fs => some (put (.array items.reverse) fs)
  | .afterItem, .closeArray, .array items :: fs => some (put (.array items.reverse) fs)
  | .firstKey, .closeObject, .object fields _ :: fs => some (put (.object fields.reverse) fs)
  | .afterItem, .closeObject, .object fields _ :: fs => some (put (.object fields.reverse) fs)
  | .afterItem, .comma, .array items :: fs => some ⟨.array items :: fs, .value, .cut⟩
  | .afterItem, .comma, .object fields key :: fs => some ⟨.object fields key :: fs, .key, .cut⟩
  | .firstKey, .string k, .object fields _ :: fs => some ⟨.object fields (some k) :: fs, .colon, .cut⟩
  | .key, .string k, .object fields _ :: fs => some ⟨.object fields (some k) :: fs, .colon, .cut⟩
  | .colon, .colon, fs => some ⟨fs, .value, .cut⟩
  | e, t, fs =>
    if e = .value ∨ e = .firstItem then
      match t with
      | .openArray => some ⟨.array [] :: fs, .firstItem, .cut⟩
      | .openObject => some ⟨.object [] none :: fs, .firstKey, .cut⟩
      | t => (scalar? t).map (put · fs)
    else none

/-- The draft of a text that breaks off with `frames` open around `inner`. -/
def breakOff (inner : Draft) : List Frame → Draft
  | [] => inner
  | .array items :: fs => breakOff (.array (inner :: items).reverse) fs
  | .object fields key :: fs => breakOff (.object ((key.getD none, inner) :: fields).reverse) fs

/-- Reads tokens to the end. The second part says whether tokens were left over behind a complete value. -/
def run : Reading → List Token → Draft × Bool
  | r, [] => (if r.expect = .nothing then r.result else breakOff .cut r.frames, false)
  | r, t :: ts =>
    match r.step t with
    | some r' => run r' ts
    | none => if r.expect = .nothing then (r.result, true) else (breakOff .cut r.frames, false)

end Reading

/-- What a text says, and whether something is left over behind it. -/
def readDraft (s : List Char) : Draft × Bool :=
  Reading.start.run (tokens s)

mutual

/-- No part of the draft is cut off. -/
def Draft.intact : Draft → Bool
  | .array items => intactItems items
  | .object fields => intactFields fields
  | .cut => false
  | _ => true

/-- No item is cut off. -/
def Draft.intactItems : List Draft → Bool
  | [] => true
  | v :: r => v.intact && intactItems r

/-- No field is cut off. -/
def Draft.intactFields : List (Option String × Draft) → Bool
  | [] => true
  | (_, v) :: r => v.intact && intactFields r

end

mutual

/-- The draft of a text that spells the value out. -/
def Value.draft : Value → Draft
  | .null => .null
  | .bool b => .bool b
  | .number n => .number (some n)
  | .string s => .string (some s)
  | .array items => .array (draftItems items)
  | .object fields => .object (draftFields fields)

/-- The drafts of the items of an array. -/
def Value.draftItems : List Value → List Draft
  | [] => []
  | v :: r => v.draft :: draftItems r

/-- The drafts of the fields of an object. -/
def Value.draftFields : List (String × Value) → List (Option String × Draft)
  | [] => []
  | (k, v) :: r => (some k, v.draft) :: draftFields r

end

mutual

/-- How many arrays and objects stand around the innermost part of a value. -/
def Value.depth : Value → Nat
  | .array items => depthItems items + 1
  | .object fields => depthFields fields + 1
  | _ => 0

/-- The greatest depth of an item. -/
def Value.depthItems : List Value → Nat
  | [] => 0
  | v :: r => max v.depth (depthItems r)

/-- The greatest depth of a field. -/
def Value.depthFields : List (String × Value) → Nat
  | [] => 0
  | (_, v) :: r => max v.depth (depthFields r)

end

end Muster.Json
