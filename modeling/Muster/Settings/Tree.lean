import Muster.Settings.CommaList
import Muster.Text.Case

/-! # Settings from variables

Variables are gathered in a tree. The name of a variable, in small letters, is a path into it: names behind
points lead into tables, numbers in brackets into lists; a name that is no such path stands for itself. The
values are texts until a field asks for something else, and no field takes a gap in a list. -/

namespace Muster.Settings

/-- A tree of settings. -/
inductive Tree
  /-- A gap in a list. -/
  | gap
  | text (s : String)
  | flag (b : Bool)
  | nat (n : Nat)
  | table (fields : List (String × Tree))
  | list (items : List Tree)

instance : Inhabited Tree := ⟨.gap⟩

/-- One step of a path: into a table or into a list, from its end if negative. -/
inductive Step
  | key (name : String)
  | index (i : Int)
  deriving DecidableEq

/-- The characters of names in a path. -/
def isNameChar (c : Char) : Bool :=
  c.isAlphanum || c = '_' || c = '-'

/-- A blank that may stand around a number in brackets. -/
def isGap (c : Char) : Bool :=
  c = ' ' || c = '\t'

/-- Reads a number of 64 bits with a sign, and the bracket behind it. -/
def readIndex (s : List Char) : Option (Int × List Char) :=
  let s := s.dropWhile isGap
  let negative := s.head? = some '-'
  let s := if negative then s.tail else s
  let digits := s.takeWhile Char.isDigit
  let n : Int := if negative then -Json.digitsValue digits else Json.digitsValue digits
  match (s.dropWhile Char.isDigit).dropWhile isGap with
  | ']' :: r =>
    if digits.isEmpty || n < -9223372036854775808 || 9223372036854775808 ≤ n then none else some (n, r)
  | _ => none

/-- Reads the steps behind the first name of a path; `fuel` bounds their number. -/
def readSteps : Nat → List Char → Option (List Step)
  | _, [] => some []
  | 0, _ => none
  | fuel + 1, '.' :: r =>
    let name := r.takeWhile isNameChar
    if name.isEmpty then none
    else (readSteps fuel (r.dropWhile isNameChar)).map (.key (String.ofList name) :: ·)
  | fuel + 1, '[' :: r =>
    match readIndex r with
    | some (i, r) => (readSteps fuel r).map (.index i :: ·)
    | none => none
  | _, _ => none

/-- The path that a name spells, or the name itself as the only step. -/
def readPath (name : List Char) : List Step :=
  let first := name.takeWhile isNameChar
  let literal := [Step.key (String.ofList name)]
  if first.isEmpty then literal
  else
    match readSteps name.length (name.dropWhile isNameChar) with
    | some steps => .key (String.ofList first) :: steps
    | none => literal

/-- Puts a value under a name: in the place of the one that is there, or at the end. -/
def putField (name : String) (v : Tree) : List (String × Tree) → List (String × Tree)
  | [] => [(name, v)]
  | (k, w) :: r => if k = name then (k, v) :: r else (k, w) :: putField name v r

namespace Tree

/-- Puts a value at the end of a path. What stands in the way gives place to a table or list; a list grows by
gaps, at its end or, for a step from the end that leads before its first item, at its beginning. -/
def put (v : Tree) : List Step → Tree → Tree
  | [], _ => v
  | .key name :: r, t =>
    let fields := match t with | .table fields => fields | _ => []
    .table (putField name (put v r ((fields.lookup name).getD .gap)) fields)
  | .index i :: r, t =>
    let items := match t with | .list items => items | _ => []
    let front := (-(i + items.length)).toNat
    let items := if i < 0 then List.replicate front .gap ++ items else items
    let at_ := if i < 0 then (i + items.length).toNat else i.toNat
    let items := items ++ List.replicate (at_ + 1 - items.length) .gap
    .list (items.set at_ (put v r (items.getD at_ .gap)))

/-- The tree of defaults and variables. -/
def ofVariables (defaults : List (String × Tree)) (vars : List (String × String)) : Tree :=
  vars.foldl (fun t (name, value) => put (.text value) (readPath (Text.lower name.toList)) t) (.table defaults)

/-- Reads a text. -/
def text? : Tree → Option String
  | .text s => some s
  | .flag b => some (if b then "true" else "false")
  | .nat n => some (toString n)
  | _ => none

/-- The words for a flag that is on, in small letters. -/
def onWords : List String := ["true", "on", "yes"]

/-- The words for a flag that is off, in small letters. -/
def offWords : List String := ["false", "off", "no"]

/-- The flag that a text spells, in any case. -/
def flagOf? (s : String) : Option Bool :=
  let w := String.ofList (Text.lower s.toList)
  if w ∈ "1" :: onWords then some true else if w ∈ "0" :: offWords then some false else none

/-- Reads a flag. -/
def flag? : Tree → Option Bool
  | .text s => flagOf? s
  | .flag b => some b
  | .nat n => some (n ≠ 0)
  | _ => none

/-- The number of 64 bits that a text spells: digits behind at most one plus, or a word for a flag. -/
def natOf? (s : String) : Option Nat :=
  let w := String.ofList (Text.lower s.toList)
  if w ∈ onWords then some 1
  else if w ∈ offWords then some 0
  else
    let digits := match s.toList with | '+' :: r => r | r => r
    if digits.isEmpty || digits.any (!·.isDigit) then none
    else
      let n := Json.digitsValue digits
      if n < 18446744073709551616 then some n else none

/-- Reads a number of 64 bits. -/
def nat? : Tree → Option Nat
  | .text s => natOf? s
  | .flag b => some (if b then 1 else 0)
  | .nat n => some n
  | _ => none

/-- Reads a list. -/
def list? {α : Type} (read : Tree → Option α) : Tree → Option (List α)
  | .list items => items.mapM read
  | _ => none

/-- Reads a comma list, or a list of texts. -/
def commaList? : Tree → Option (List String)
  | .text s => some (commaList s)
  | .list items => items.mapM (fun t => match t with | .text s => some s | _ => none)
  | _ => none

/-- Where the fields of a record are found, by position and name: a table has them by name, a list by
position. -/
def fields? : Tree → Option (Nat → String → Option Tree)
  | .table fields => some (fun _ name => fields.lookup name)
  | .list items => some (fun i _ => items[i]?)
  | _ => none

/-- Reads a field that is there, or takes the default. -/
def fieldOr {α : Type} (found : Option Tree) (read : Tree → Option α) (default? : Option α) : Option α :=
  match found with
  | some t => read t
  | none => default?

end Tree

end Muster.Settings
