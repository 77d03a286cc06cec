import Muster.Url.Path

/-! # Reading URLs

A URL is read from its text alone, without another one as its base. Blanks and controls around it, and tabs and
line breaks within it, do not count. -/

namespace Muster.Url

/-- A text without the controls and blanks at its ends. -/
def trimControls (s : List Char) : List Char :=
  ((s.dropWhile (·.toNat ≤ 0x20)).reverse.dropWhile (·.toNat ≤ 0x20)).reverse

/-- Reads a scheme and the colon behind it. -/
def readScheme (s : List Char) : Option (List Char × List Char) :=
  let isSchemeChar := fun (c : Char) => c.isAlphanum || c = '+' || c = '-' || c = '.'
  match s.head?, s.dropWhile isSchemeChar with
  | some c, ':' :: r => if c.isAlpha then some ((s.takeWhile isSchemeChar).map Char.toLower, r) else none
  | _, _ => none

/-- The character ends the part before the path. -/
def endsAuthority (special : Bool) (c : Char) : Bool :=
  c = '/' || c = '?' || c = '#' || (special && c = '\\')

/-- The text of a user and password: no colon before an empty password. -/
def userinfoText (s : List Char) : List Char :=
  let user := s.takeWhile (· ≠ ':')
  let password := (s.dropWhile (· ≠ ':')).drop 1
  Text.percentEncode Text.inUserinfoSet user ++
    (if password.isEmpty then [] else ':' :: Text.percentEncode Text.inUserinfoSet password)

/-- The length of the host that a text begins with: up to a colon outside of brackets. -/
def hostLength : Bool → List Char → Nat
  | _, [] => 0
  | inBrackets, c :: r =>
    if c = ':' && !inBrackets then 0
    else hostLength (if c = '[' then true else if c = ']' then false else inBrackets) r + 1

/-- Reads a port: digits up to the end. No digits and the scheme's own port count as none. -/
def readPort (scheme s : List Char) : Except UrlError (Option Nat) :=
  if s.any (!·.isDigit) then .error .invalidPort
  else
    let n := Json.digitsValue s
    if 65536 ≤ n then .error .invalidPort
    else if s.isEmpty || defaultPort scheme = some n then .ok none
    else .ok (some n)

/-- Reads user, host and port, and gives what is left behind the port: a backslash ends it in any scheme. `behind` is
what follows the whole part; where something does, an at sign alone is no host. -/
def readAuthority (scheme s behind : List Char) : Except UrlError (Authority × List Char) := do
  let special := isSpecial scheme
  let server := (s.reverse.takeWhile (· ≠ '@')).reverse
  let userinfo := userinfoText (s.take (s.length - server.length)).dropLast
  if s = ['@'] && !behind.isEmpty then .error .emptyHost
  else
    let n := hostLength false server
    let text := server.take n
    let rest := server.drop n
    let host ←
      if special then (if text.isEmpty then .error .emptyHost else hostOf text) else plainHostOf text
    if host.isEmpty && (special || !rest.isEmpty || !userinfo.isEmpty) then .error .emptyHost
    else
      let port ← readPort scheme ((rest.drop 1).takeWhile (· ≠ '\\'))
      return (⟨userinfo, host, port⟩, (rest.drop 1).dropWhile (· ≠ '\\'))

/-- Reads query and fragment behind a path. -/
def readEnd (special : Bool) (s : List Char) : Option (List Char) × Option (List Char) :=
  let front := s.takeWhile (· ≠ '#')
  let fragment :=
    match s.dropWhile (· ≠ '#') with
    | '#' :: f => some (Text.percentEncode Text.inFragmentSet f)
    | _ => none
  match front with
  | '?' :: q => (some (Text.percentEncode (Text.inQuerySet special) q), fragment)
  | _ => (none, fragment)

/-- The character ends a path. -/
def endsPath (c : Char) : Bool :=
  c = '?' || c = '#'

/-- A character that parts the segments of a path. -/
def isSlash (special : Bool) (c : Char) : Bool :=
  c = '/' || (special && c = '\\')

/-- The pieces of a path between slashes, as they stand in a URL. -/
def pieces (special : Bool) (s : List Char) : List (List Char) :=
  (Text.splitWhere (isSlash special) s).map (Text.percentEncode Text.inPathSet)

/-- Reads a path with a host before it. A special scheme has at least the empty segment. -/
def readPath (special : Bool) (s : List Char) : Path :=
  match s with
  | [] => .segments (if special then [[]] else [])
  | c :: r => .segments (resolve false [] (pieces special (if isSlash special c then r else s)))

/-- Reads the rest of a URL behind its authority. -/
def readRest (scheme : List Char) (authority : Option Authority) (s : List Char) : Url :=
  let special := isSpecial scheme
  let (query, fragment) := readEnd special (s.dropWhile (!endsPath ·))
  ⟨scheme, authority, readPath special (s.takeWhile (!endsPath ·)), query, fragment⟩

/-- The URL of a file on a host. A path that begins with a drive is on no host, and empty segments at the beginning of
a path do not count. -/
def fileUrl (scheme host s : List Char) : Url :=
  let (query, fragment) := readEnd true (s.dropWhile (!endsPath ·))
  let path := resolve true [] (pieces true (s.takeWhile (!endsPath ·)))
  let shown := path.dropWhile (·.isEmpty)
  ⟨scheme, some ⟨[], if path.head?.any isDrive then [] else host, none⟩,
    .segments (if shown.isEmpty then [[]] else shown), query, fragment⟩

/-- Reads a file's URL: a host behind two slashes, `localhost` counting as none and a drive being none. The slash
behind a host, or at the beginning where no host is named, is no part of the path. -/
def readFile (scheme s : List Char) : Except UrlError Url :=
  match s with
  | a :: b :: r =>
    if isSlash true a && isSlash true b then
      let text := r.takeWhile (!endsAuthority true ·)
      let rest := r.dropWhile (!endsAuthority true ·)
      if text.isEmpty || isDrive text then .ok (fileUrl scheme [] r)
      else do
        let host ← hostOf text
        if host = "localhost".toList then return fileUrl scheme [] rest
        else return fileUrl scheme host (if rest.head?.any (isSlash true) then rest.drop 1 else rest)
    else .ok (fileUrl scheme [] (if isSlash true a then b :: r else s))
  | s => .ok (fileUrl scheme [] (if s.head?.any (isSlash true) then s.drop 1 else s))

/-- Reads a URL. -/
def parse (input : String) : Except UrlError Url :=
  let s := (trimControls input.toList).filter (!isIgnored ·)
  match readScheme s with
  | none => .error .relative
  | some (scheme, r) =>
    if scheme = "file".toList then readFile scheme r
    else if isSpecial scheme then do
      let r := r.dropWhile (isSlash true)
      let rest := r.dropWhile (!endsAuthority true ·)
      let (a, left) ← readAuthority scheme (r.takeWhile (!endsAuthority true ·)) rest
      return readRest scheme (some a) (left ++ rest)
    else
      match r with
      | '/' :: '/' :: r => do
        let rest := r.dropWhile (!endsAuthority false ·)
        let (a, left) ← readAuthority scheme (r.takeWhile (!endsAuthority false ·)) rest
        return readRest scheme (some a) (left ++ rest)
      | '/' :: _ => .ok (readRest scheme none r)
      | r =>
        let (query, fragment) := readEnd false (r.dropWhile (!endsPath ·))
        let path := Text.percentEncode Text.isControlOrForeign (r.takeWhile (!endsPath ·))
        .ok ⟨scheme, none, .text path, query, fragment⟩

end Muster.Url
