import Muster.Url.Basic

/-! # Paths of URLs

How the pieces of a path between slashes become its segments, and how further segments are appended. A piece
of one point stands for the place itself and one of two points for the place above; a drive is never left. -/

namespace Muster.Url

/-- A piece that stands for the place itself. -/
def isHere (s : List Char) : Bool :=
  let t := s.map Char.toLower
  t = ['.'] || t = ['%', '2', 'e']

/-- A piece that stands for the place above. -/
def isAbove (s : List Char) : Bool :=
  let t := s.map Char.toLower
  t = ['.', '.'] || t = ['%', '2', 'e', '.'] || t = ['.', '%', '2', 'e'] || t = ['%', '2', 'e', '%', '2', 'e']

/-- A piece that names a drive: a letter with a colon or a bar behind it. -/
def isDrive (s : List Char) : Bool :=
  match s with
  | [a, b] => a.isAlpha && (b = ':' || b = '|')
  | _ => false

/-- The place above: there is none above a drive. -/
def above (done : List (List Char)) : List (List Char) :=
  if done.getLast?.any isDrive then done else done.dropLast

/-- Appends a segment. A drive that begins the path of a file is written with a colon. -/
def place (file : Bool) (done : List (List Char)) (p : List Char) : List (List Char) :=
  done ++ [if file && done.isEmpty && isDrive p then p.take 1 ++ [':'] else p]

/-- The segments that pieces stand for. A last piece that stands for a place leaves an empty segment. -/
def resolve (file : Bool) : List (List Char) → List (List Char) → List (List Char)
  | done, [] => done
  | done, [p] =>
    if isAbove p then above done ++ [[]] else if isHere p then done ++ [[]] else place file done p
  | done, p :: r =>
    if isAbove p then resolve file (above done) r
    else if isHere p then resolve file done r
    else resolve file (place file done p) r

/-- Tabs and line breaks, which do not count in a URL. -/
def isIgnored (c : Char) : Bool :=
  c = '\t' || c = '\n' || c = '\r'

/-- A segment as it stands in a path that it is appended to. -/
def encodeSegment (special : Bool) (s : List Char) : List Char :=
  Text.percentEncode (Text.inSegmentSet special) (s.filter (!isIgnored ·))

/-- Appends one segment. A segment of one or two points is passed over. What is left of a segment without tabs
and line breaks may still be points: those lead to a place. -/
def pushSegment (special : Bool) (path : List (List Char)) (s : List Char) : List (List Char) :=
  if s = ['.'] ∨ s = ['.', '.'] then path
  else
    let path := if path = [[]] then [] else path
    let e := encodeSegment special s
    if isAbove e then above path ++ [[]] else if isHere e then path ++ [[]] else path ++ [e]

/-- Removes an empty last segment, unless it is the only one. -/
def popEmpty (path : List (List Char)) : List (List Char) :=
  if path.length > 1 && path.getLast? = some [] then path.dropLast else path

/-- The URL with segments appended to its path; `none` for one that is no base. -/
def join? (u : Url) (segments : List (List Char)) : Option Url :=
  match u.path with
  | .text _ => none
  | .segments l =>
    some { u with path := .segments (segments.foldl (pushSegment (isSpecial u.scheme)) (popEmpty l)) }

end Muster.Url
