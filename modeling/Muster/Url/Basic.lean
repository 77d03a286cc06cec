import Muster.Json.Printer
import Muster.Url.Domain

/-! # URLs

A URL in its parts, as they stand in its text, and the text itself. The path is a list of segments, or one
text for the schemes whose URLs are no base for others. -/

namespace Muster

/-- The path of a URL. -/
inductive Url.Path
  /-- Segments, each behind a slash. -/
  | segments (l : List (List Char))
  /-- One text: the URL is no base. -/
  | text (s : List Char)
  deriving DecidableEq, Repr

/-- Who and where a URL's host is. -/
structure Url.Authority where
  userinfo : List Char
  host : List Char
  port : Option Nat
  deriving DecidableEq, Repr

/-- A URL. -/
structure Url where
  scheme : List Char
  authority : Option Url.Authority
  path : Url.Path
  query : Option (List Char)
  fragment : Option (List Char)
  deriving DecidableEq, Repr

namespace Url

/-- The schemes whose URLs have a host and a path of segments, with their ports. -/
def specialSchemes : List (List Char × Option Nat) :=
  [("http".toList, some 80), ("https".toList, some 443), ("ws".toList, some 80), ("wss".toList, some 443),
    ("ftp".toList, some 21), ("file".toList, none)]

/-- A special scheme. -/
def isSpecial (scheme : List Char) : Bool :=
  specialSchemes.any (·.1 = scheme)

/-- The port that a scheme stands for. -/
def defaultPort (scheme : List Char) : Option Nat :=
  (specialSchemes.lookup scheme).getD none

/-- Host and port as they name a server: without the port that the scheme stands for. -/
def Authority.server (a : Authority) : List Char :=
  a.host ++ match a.port with | some p => ':' :: Json.printNat p | none => []

/-- The text of an authority. -/
def Authority.print (a : Authority) : List Char :=
  (if a.userinfo.isEmpty then [] else a.userinfo ++ ['@']) ++ a.server

/-- The text of a path. -/
def Path.print : Path → List Char
  | .segments l => l.flatMap ('/' :: ·)
  | .text s => s

/-- Path and query, as a request names what it is for. -/
def target (u : Url) : List Char :=
  u.path.print ++ match u.query with | some q => '?' :: q | none => []

/-- The text of a URL. Without a host, a path that begins with two slashes is marked as a path. -/
def print (u : Url) : List Char :=
  u.scheme ++ ':' ::
    ((match u.authority with
      | some a => '/' :: '/' :: a.print
      | none =>
        match u.path with
        | .segments ([] :: _ :: _) => ['/', '.']
        | _ => []) ++
      u.target ++ match u.fragment with | some f => '#' :: f | none => [])

/-- The text of a URL. -/
def text (u : Url) : String :=
  String.ofList u.print

/-- The URL without the user and password it names. -/
def withoutUser (u : Url) : Url :=
  { u with authority := u.authority.map ({ · with userinfo := [] }) }

/-- The URL names a host. -/
def hasHost (u : Url) : Bool :=
  u.authority.any fun a => !a.host.isEmpty

/-- The server that a URL names, as a key for hosts. -/
def server (u : Url) : String :=
  match u.authority with
  | some a => String.ofList a.server
  | none => ""

end Url

end Muster
