import Muster.Http.Message

/-! # Media types

What a `Content-Type` header says: a type, a subtype, whose last plus sets off a suffix, and parameters, whose values
are tokens or stand in quotes. -/

namespace Muster.Http

/-- A media type without its parameters, in small letters. -/
structure MediaType where
  type : List Char
  /-- The subtype up to its suffix. -/
  subtype : List Char
  suffix : Option (List Char)
  deriving DecidableEq, Repr

/-- Where the reading of parameters has got to. -/
inductive ParameterState
  /-- Before a name. -/
  | start
  | name
  /-- Behind the equals sign. -/
  | equals
  | value
  /-- Behind the opening quote. -/
  | quote
  | quoted
  /-- Behind the closing quote. -/
  | behind
  deriving DecidableEq, Repr

namespace ParameterState

/-- Takes one character. A quote right behind the opening one does not close the value. -/
def step : ParameterState → Char → Option ParameterState
  | .start, c => if c = ' ' then some .start else if isTokenChar c then some .name else none
  | .name, c => if c = '=' then some .equals else if isTokenChar c then some .name else none
  | .equals, c => if c = '"' then some .quote else if isTokenChar c then some .value else none
  | .value, c => if c = ';' then some .start else if isTokenChar c then some .value else none
  | .quote, c => if 0x20 ≤ c.toNat ∧ c.toNat ≠ 0x7F then some .quoted else none
  | .quoted, c =>
    if c = '"' then some .behind else if 0x20 ≤ c.toNat ∧ c.toNat ≠ 0x7F then some .quoted else none
  | .behind, c => if c = ';' then some .start else if c = ' ' then some .behind else none

/-- The parameters may end here. -/
def isEnd : ParameterState → Bool
  | .start | .equals | .value | .behind => true
  | .name | .quote | .quoted => false

end ParameterState

/-- A text that holds parameters with semicolons between them. -/
def areParameters (s : List Char) : Bool :=
  match s.foldlM ParameterState.step .start with
  | some state => state.isEnd
  | none => false

/-- The part of a subtype up to its last plus, and the suffix behind it. A plus that begins the subtype sets off
nothing. -/
def splitSuffix (s : List Char) : List Char × Option (List Char) :=
  let suffix := (s.reverse.takeWhile (· ≠ '+')).reverse
  let front := s.take (s.length - suffix.length)
  if front.length ≤ 1 then (s, none) else (front.dropLast, some suffix)

/-- Reads a media type. -/
def MediaType.read? (s : List Char) : Option MediaType :=
  let essence := (s.takeWhile (· ≠ ';')).map Char.toLower
  let type := essence.takeWhile (· ≠ '/')
  match s.dropWhile (· ≠ ';'), essence.dropWhile (· ≠ '/') with
  | parameters, '/' :: subtype =>
    if isToken type && subtype.all isTokenChar && (parameters.isEmpty || !subtype.isEmpty) &&
        areParameters (parameters.drop 1) then
      let (front, suffix) := splitSuffix subtype
      some ⟨type, front, suffix⟩
    else none
  | _, _ => none

/-- The type of a JSON text: `application/json`, or a type of applications with the suffix `json`. -/
def MediaType.isJson (m : MediaType) : Bool :=
  m.type = "application".toList && (m.subtype = "json".toList || m.suffix = some "json".toList)

end Muster.Http
