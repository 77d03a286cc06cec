import Muster.Error
import Muster.Json.Decoder
import Muster.Json.Printer
import Muster.Text.Split
import Muster.Text.Utf8

/-! # HTTP messages

Requests and answers as the cluster's interfaces see them. -/

namespace Muster.Http

/-- A request. Names of headers are in small letters. -/
structure Request where
  method : String
  path : List Char
  query : Option (List Char)
  headers : List (String × String)
  body : String
  deriving DecidableEq, Repr

/-- An answer. `allow` holds the methods of an `Allow` header. -/
structure Response where
  status : Nat
  contentType : Option String
  body : String
  allow : List String
  deriving DecidableEq, Repr

/-- The first header of a name. -/
def Request.header? (r : Request) (name : String) : Option String :=
  r.headers.lookup name

/-- The type of a plain text. -/
def plainText : String := "text/plain; charset=utf-8"

/-- The type of a JSON text. -/
def jsonText : String := "application/json"

namespace Response

/-- An answer without a body. -/
def empty (status : Nat) : Response := ⟨status, none, "", []⟩

/-- An answer with a plain text. -/
def text (status : Nat) (body : String) : Response := ⟨status, some plainText, body, []⟩

/-- An answer with a document. -/
def json (v : Json.Value) : Response := ⟨200, some jsonText, v.text, []⟩

/-- The answer with an error. -/
def ofError (e : ClusterError) : Response := text e.status e.text

/-- The answer says that the request was carried out. -/
def isSuccess (r : Response) : Bool := 200 ≤ r.status && r.status < 300

/-- The answer without its body. -/
def headOnly (r : Response) : Response := { r with body := "" }

/-- The answer as it arrives: answers of some kinds have no body on the way. -/
def onWire (r : Response) : Response :=
  if r.status < 200 ∨ r.status = 204 ∨ r.status = 304 then r.headOnly else r

end Response

/-- A character of a method or of a header's name. -/
def isTokenChar (c : Char) : Bool :=
  c.isAlphanum || ['!', '#', '$', '%', '&', '\'', '*', '+', '-', '.', '^', '_', '\x60', '|', '~'].contains c

/-- A text that can be a method or a header's name. -/
def isToken (s : List Char) : Bool :=
  !s.isEmpty && s.all isTokenChar

/-- A text that can be the value of a header: without control characters but the tab. -/
def isHeaderValue (s : List Char) : Bool :=
  s.all fun c => c = '\t' || (0x20 ≤ c.toNat && c.toNat ≠ 0x7F)

/-- A header's value that reads as a text: visible ASCII, blanks and tabs. -/
def isReadable (s : List Char) : Bool :=
  s.all fun c => c = '\t' || (0x20 ≤ c.toNat && c.toNat < 0x7F)

/-- A header's value as it arrives: without the blanks at its ends. -/
def stripBlanks (s : List Char) : List Char :=
  let isBlank := fun (c : Char) => c = ' ' || c = '\t'
  ((s.dropWhile isBlank).reverse.dropWhile isBlank).reverse

/-- A character that may stand in a path. -/
def isPathChar (c : Char) : Bool :=
  0x21 ≤ c.toNat && !(['<', '>', '\x60'].contains c)

/-- A character that may stand in a query. -/
def isQueryChar (c : Char) : Bool :=
  0x21 ≤ c.toNat && !(['"', '<', '>'].contains c)

/-- Path and query of a text that names what a request is for; what follows a hash does not count. -/
def readTarget (s : List Char) : Option (List Char × Option (List Char)) :=
  let s := s.takeWhile (· ≠ '#')
  let path := s.takeWhile (· ≠ '?')
  if path.all isPathChar then
    match s.dropWhile (· ≠ '?') with
    | '?' :: q => if q.all isQueryChar then some (path, some q) else none
    | _ => some (path, none)
  else none

/-- A character of a host with user and port. -/
def isServerChar (c : Char) : Bool :=
  c.isAlphanum || ['-', '.', '_', '~', '!', '$', '&', '\'', '(', ')', '*', '+', ',', ';', '='].contains c

/-- What has been seen of a host with user and port: how many colons, and whether there is a percent sign, since the
last sign that settles them; whether brackets were opened and closed. -/
structure ServerScan where
  colons : Nat
  percent : Bool
  opened : Bool
  closed : Bool
  deriving DecidableEq, Repr

/-- Takes one character. An at sign and a closing bracket settle what stands before them: what is allowed in a user's
name or an address need not be allowed in a host's. -/
def ServerScan.step (s : ServerScan) (c : Char) : Option ServerScan :=
  if c = ':' then (if 8 ≤ s.colons then none else some { s with colons := s.colons + 1 })
  else if c = '[' then (if s.percent || s.opened then none else some { s with opened := true })
  else if c = ']' then
    if !s.opened || s.closed then none else some { s with closed := true, colons := 0, percent := false }
  else if c = '@' then some { s with colons := 0, percent := false }
  else if c = '%' then some { s with percent := true }
  else if isServerChar c then some s
  else none

/-- A text that can be a host with user and port. -/
def isServer (s : List Char) : Bool :=
  match s.foldlM ServerScan.step ⟨0, false, false, false⟩ with
  | some scan =>
    !s.isEmpty && scan.opened = scan.closed && scan.colons ≤ 1 && !scan.percent && s.getLast? ≠ some '@'
  | none => false

/-- A character of a scheme. -/
def isSchemeChar (c : Char) : Bool :=
  c.isAlphanum || c = '+' || c = '-' || c = '.' || c = '~'

/-- Reads what a request is for: a path, a star, a full address, of which the path counts, or a server alone,
which has no path. A scheme may be empty, and has at most 64 characters. -/
def readUri (s : List Char) : Option (List Char × Option (List Char)) :=
  if 65534 < (Text.utf8 s).length then none
  else
    match s with
    | ['*'] => some (['*'], none)
    | '/' :: _ => readTarget s
    | s =>
      match s.dropWhile isSchemeChar with
      | ':' :: '/' :: '/' :: r =>
        let isEnd := fun (c : Char) => c = '/' || c = '?' || c = '#'
        if 64 < (s.takeWhile isSchemeChar).length || !isServer (r.takeWhile (!isEnd ·)) then none
        else
          match r.dropWhile (!isEnd ·) with
          | '/' :: t => readTarget ('/' :: t)
          | t => (readTarget t).map fun (_, q) => (['/'], q)
      | _ => if isServer s then some ([], none) else none

/-- The request with these parts; `none` if no request can have them. -/
def Request.make? (method uri : String) (headers : List (String × String)) (body : String) : Option Request := do
  let (path, query) ← readUri uri.toList
  if isToken method.toList && headers.all (fun (n, v) => isToken n.toList && isHeaderValue v.toList) then
    return ⟨method, path, query, headers.map (fun (n, v) => (String.ofList (n.toList.map Char.toLower), v)), body⟩
  else none

end Muster.Http
