import Muster.Text.Split
import Muster.Text.Utf8

/-! # Files

The files that settings are read from, and the working directory. A path is followed name by name: from the root if it
begins with a slash, from a directory otherwise. -/

namespace Muster.Settings

/-- The files of a machine. A place is given by the names that lead to it from the root. -/
structure Files where
  /-- The working directory. -/
  directory : List String
  /-- Directories besides the working directory and those that hold a file. -/
  directories : List (List String)
  /-- The files and their octets. -/
  contents : List (List String × List Nat)
  deriving Repr

/-- What a path leads to. -/
inductive Entry
  | missing
  /-- Something that is no directory stands in the way. -/
  | barred
  | directory (place : List String)
  | file (content : List Nat)
  deriving DecidableEq, Repr

namespace Files

/-- The names of a path. -/
def names (path : String) : List String :=
  (Text.split '/' path.toList).map String.ofList

/-- Where a path begins. -/
def origin (directory : List String) (path : String) : List String :=
  if path.toList.head? = some '/' then [] else directory

/-- The place that a name leads to from another one. There is nothing above the root. -/
def step (place : List String) (name : String) : List String :=
  if name = "" || name = "." then place else if name = ".." then place.dropLast else place ++ [name]

/-- The place that a path names if it can be followed. -/
def placeOf (directory : List String) (path : String) : List String :=
  (names path).foldl step (origin directory path)

/-- What stands at a place. -/
def entry (files : Files) (place : List String) : Entry :=
  match files.contents.lookup place with
  | some content => .file content
  | none =>
    let known := files.directory :: files.directories ++ files.contents.map (·.1)
    if known.any place.isPrefixOf then .directory place else .missing

/-- Goes on by a name, which only a directory allows. -/
def enter (files : Files) : Entry → String → Entry
  | .directory place, name => files.entry (step place name)
  | .file _, _ => .barred
  | e, _ => e

/-- What a path leads to from a directory. -/
def follow (files : Files) (directory : List String) (path : String) : Entry :=
  (names path).foldl files.enter (.directory (origin directory path))

/-- What stands at a path. -/
def open_ (files : Files) (path : String) : Entry :=
  if path = "" then .missing else files.follow files.directory path

/-- Looks for a file in a directory, whose names are given backwards, and then in the directories above it. A directory
of the file's name is passed over, but the search ends where something else stands in the way. -/
def search (files : Files) (path : String) (directory : List String) : Option (List Nat) :=
  match files.follow directory.reverse path with
  | .file content => some content
  | .barred => none
  | _ =>
    match directory with
    | [] => none
    | _ :: above => search files path above

/-- Looks for a file in the working directory and in those above it. -/
def find? (files : Files) (path : String) : Option (List Nat) :=
  files.search path files.directory.reverse

/-- The places that names go through. -/
def passed (place : List String) : List String → List (List String)
  | [] => []
  | name :: r => place :: passed (step place name) r

/-- The files with the given paths and contents. -/
def ofList (directory : List String) (l : List (String × List Nat)) : Files where
  directory
  directories := l.flatMap fun (path, _) => passed (origin directory path) (names path)
  contents := l.map fun (path, content) => (placeOf directory path, content)

end Files

end Muster.Settings
