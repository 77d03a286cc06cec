import Muster.Json.Double

/-! # JSON values

A value as the cluster holds it: whole numbers of 64 bits apart from all others, which are doubles, and objects
as lists of fields in order. -/

namespace Muster.Json

/-- A whole number that fits 64 bits, signed or not. -/
structure Whole where
  val : Int
  ge_min : -9223372036854775808 ≤ val
  lt_max : val < 18446744073709551616

instance : DecidableEq Whole := fun a b =>
  if h : a.val = b.val then .isTrue (by cases a; cases b; cases h; rfl) else .isFalse (fun e => h (e ▸ rfl))

/-- The whole number of an integer, if it fits. -/
def Whole.ofInt? (n : Int) : Option Whole :=
  if h : -9223372036854775808 ≤ n ∧ n < 18446744073709551616 then some ⟨n, h.1, h.2⟩ else none

/-- The whole number of a natural number below 2⁶³ (larger ones count as the largest such). -/
def Whole.ofNat (n : Nat) : Whole :=
  ⟨(min n 9223372036854775808 : Nat), by omega, by omega⟩

/-- A number: a whole one, or a double with a sign. -/
inductive Number
  | whole (n : Whole)
  | double (negative : Bool) (d : Double)
  deriving DecidableEq

/-- A JSON value. -/
inductive Value
  | null
  | bool (b : Bool)
  | number (n : Number)
  | string (s : String)
  | array (items : List Value)
  | object (fields : List (String × Value))

instance : Inhabited Value := ⟨.null⟩

namespace Value

/-- The number `n` as a value. -/
def ofNat (n : Nat) : Value :=
  .number (.whole (.ofNat n))

/-- The list of texts as a value. -/
def ofStrings (l : List String) : Value :=
  .array (l.map .string)

/-- The text of a string value. -/
def string? : Value → Option String
  | .string s => some s
  | _ => none

/-- The value of a field: the last one where a name occurs again. -/
def lookup (name : String) (fields : List (String × Value)) : Option Value :=
  (fields.findRev? (·.1 == name)).map (·.2)

end Value

/-- The fields without those that a later field of the same name replaces. -/
def lastFields {α : Type} : List (String × α) → List (String × α)
  | [] => []
  | f :: r => if r.any (·.1 == f.1) then lastFields r else f :: lastFields r

end Muster.Json
