import Muster.Text.Alphanumeric
import Muster.Text.Blank
import Muster.Text.Utf8

/-! # Env files

A file of lines `KEY = VALUE` that adds variables to those of the process. Lines are taken in order up to the
first that cannot be read; a variable that is there already keeps its value. A value with a zero character is none that
a variable can have: it ends the process that is about to set it. -/

namespace Muster.Settings

/-- The variables of a process, by name. -/
abbrev Variables := List (String × String)

namespace EnvFile

/-- A character that begins a key. -/
def isKeyStart (c : Char) : Bool :=
  c.isAlpha || c = '_'

/-- A character of a key. -/
def isKeyChar (c : Char) : Bool :=
  c.isAlphanum || c = '_' || c = '.'

/-- A reference to a variable that is being read: not yet past the dollar sign's name, or within braces. -/
inductive Reference
  | none
  | bare (name : List Char)
  | braced (name : List Char)
  deriving DecidableEq

/-- Where the reading of a value has got to. -/
structure ValueState where
  /-- Within single quotes. -/
  literal : Bool
  /-- Within double quotes. -/
  quoted : Bool
  /-- Behind a backslash. -/
  escaped : Bool
  /-- Behind the blank that ends the value. -/
  ended : Bool
  reference : Reference
  /-- The value so far, backwards. -/
  value : List Char

/-- Before the first character of a value. -/
def ValueState.start : ValueState := ⟨false, false, false, false, .none, []⟩

/-- The value of a variable, or nothing. -/
def valueOf (vars : Variables) (name : List Char) : List Char :=
  ((vars.lookup (String.ofList name)).getD "").toList

/-- Puts the value of a variable (whose name is given backwards) behind the value so far. -/
def ValueState.expand (s : ValueState) (vars : Variables) (name : List Char) : ValueState :=
  { s with reference := .none, value := (valueOf vars name.reverse).reverse ++ s.value }

/-- Takes the character `c` as it is. -/
def ValueState.add (s : ValueState) (c : Char) : ValueState :=
  { s with value := c :: s.value }

/-- Takes one character outside of references and quotes' special cases. -/
def ValueState.plain (s : ValueState) (c : Char) : ValueState :=
  if c = '$' then { s with reference := .bare [] }
  else if s.quoted then
    if c = '"' then { s with quoted := false } else if c = '\\' then { s with escaped := true } else s.add c
  else if c = '\'' then { s with literal := true }
  else if c = '"' then { s with quoted := true }
  else if c = '\\' then { s with escaped := true }
  else if c = ' ' || c = '\t' then { s with ended := true }
  else s.add c

/-- Takes one character of a value. While the name of a bare reference is read nothing else is looked for: the
character that ends it is taken as it is. -/
def ValueState.step (s : ValueState) (vars : Variables) (c : Char) : Option ValueState :=
  if s.escaped then
    if c = '\\' || c = '\'' || c = '"' || c = '$' || c = ' ' then some { s.add c with escaped := false }
    else if c = 'n' then some { s.add '\n' with escaped := false }
    else none
  else if s.literal then some (if c = '\'' then { s with literal := false } else s.add c)
  else
    match s.reference with
    | .bare name =>
      if Text.isAlphanumeric c then some { s with reference := .bare (c :: name) }
      else if c = '{' && name.isEmpty then some { s with reference := .braced [] }
      else
        let s := s.expand vars name
        some (if c = '$' then { s with reference := .bare [] } else s.add c)
    | .braced name =>
      some (if c = '}' then s.expand vars name else { s with reference := .braced (c :: name) })
    | .none => some (s.plain c)

/-- The value that ends here, if quotes and braces are closed. -/
def ValueState.finish? (s : ValueState) (vars : Variables) : Option (List Char) :=
  if s.literal || s.quoted then none
  else
    match s.reference with
    | .braced _ => none
    | .bare name => some (s.expand vars name).value.reverse
    | .none => some s.value.reverse

/-- Reads a value to its end or to the comment behind it. -/
def readValueFrom (vars : Variables) : ValueState → List Char → Option (List Char)
  | s, [] => s.finish? vars
  | s, c :: r =>
    if s.ended then
      if c = ' ' || c = '\t' then readValueFrom vars s r
      else if c = '#' then s.finish? vars
      else none
    else
      match s.step vars c with
      | some s => readValueFrom vars s r
      | none => none

/-- Reads a key and the blanks behind it. -/
def readKey (s : List Char) : Option (List Char × List Char) :=
  match s with
  | [] => none
  | c :: _ =>
    if isKeyStart c then some (s.takeWhile isKeyChar, Text.trimStart (s.dropWhile isKeyChar)) else none

/-- Reads a key, behind the word `export` if it is no key itself, and the rest after the equals sign. -/
def readAssignment (s : List Char) : Option (List Char × List Char) := do
  let (key, r) ← readKey s
  match r with
  | '=' :: r => return (key, r)
  | r =>
    if key = "export".toList then
      let (key, r) ← readKey r
      match r with
      | '=' :: r => return (key, r)
      | _ => none
    else none

/-- What a line says. -/
inductive Line
  | blank
  | assignment (key value : String)
  | malformed
  deriving DecidableEq

/-- Reads a line, with the variables that its references stand for. -/
def readLine (vars : Variables) (line : List Char) : Line :=
  let s := Text.trim line
  match s with
  | [] => .blank
  | '#' :: _ => .blank
  | s =>
    match readAssignment s with
    | none => .malformed
    | some (key, r) =>
      match Text.trimStart r with
      | [] => .assignment (String.ofList key) ""
      | '#' :: _ => .assignment (String.ofList key) ""
      | v =>
        match readValueFrom vars .start v with
        | some value => .assignment (String.ofList key) (String.ofList value)
        | none => .malformed

/-- Reads the octets of a line. -/
def readOctets (vars : Variables) (line : List Nat) : Line :=
  match Text.fromUtf8? line with
  | some line => readLine vars line
  | none => .malformed

/-- The value can be that of a variable. -/
def isSettable (value : String) : Bool :=
  !value.toList.contains '\x00'

/-- Adds what a list of lines assigns, up to the first line that cannot be read; `none` where this ends the process. -/
def addLines : Variables → List (List Nat) → Option Variables
  | vars, [] => some vars
  | vars, line :: r =>
    match readOctets vars line with
    | .blank => addLines vars r
    | .assignment key value =>
      if (vars.lookup key).isSome then addLines vars r
      else if isSettable value then addLines (vars ++ [(key, value)]) r
      else none
    | .malformed => some vars

/-- The lines of a file; a carriage return before the line break belongs to the break. -/
def lines (content : List Nat) : List (List Nat) :=
  (content.splitOn 0x0A).map fun l => if l.getLast? = some 0x0D then l.dropLast else l

/-- The variables of a process with those that a file adds; `none` where this ends the process. -/
def extend (vars : Variables) (content : List Nat) : Option Variables :=
  addLines vars (lines content)

end EnvFile

end Muster.Settings
