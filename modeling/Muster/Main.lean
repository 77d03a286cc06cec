import Muster.Service

/-! # The command line

Starts a management node with the variables of its process. It is ready once its settings hold together, and
stops when its input ends. -/

namespace Muster.CommandLine

open Settings

/-- The variables of a process, each a name and a value with `=` between them and a zero octet behind. -/
def variablesOf (environment : List Nat) : Variables :=
  let entries := ((environment.splitOn 0).filterMap Text.fromUtf8?).filter (·.contains '=')
  entries.map fun e => (String.ofList (e.takeWhile (· ≠ '=')), String.ofList ((e.dropWhile (· ≠ '=')).drop 1))

/-- The content of a file, if it can be read. -/
def contentOf? (path : String) : IO (Option (List Nat)) :=
  try
    return some ((← IO.FS.readBinFile path).toList.map UInt8.toNat)
  catch _ => return none

/-- The names that lead to the working directory. -/
def workingDirectory : IO (List String) := do
  return Files.placeOf [] (← IO.currentDir).toString

/-- A path and those that it goes through, below a directory. -/
def pathsBelow (directory : List String) (path : String) : List String :=
  let names := Files.names path
  let above := if path.startsWith "/" then [] else "" :: directory
  (List.range names.length).map fun k => "/".intercalate (above ++ names.take (k + 1))

/-- The paths that a search in the working directory and those above it may follow. -/
def searchPaths (directory : List String) (path : String) : List String :=
  (List.range (directory.length + 1)).flatMap fun k => pathsBelow (directory.take k) path

/-- The files and directories at some paths. -/
def filesAt (directory paths : List String) : IO Files := do
  let found ← paths.filterMapM fun path => return (← contentOf? path).map (path, ·)
  let open_ ← paths.filterM fun (path : String) => do ((← IO.currentDir) / path).isDir
  let files := Files.ofList directory found
  return { files with directories := open_.map (Files.placeOf directory) ++ files.directories }

/-- The file of auth providers that the settings name. -/
def authFile? (vars : Variables) (args : List String) (files : Files) : Option String :=
  match loadManagement vars (Service.envFileArg args) files with
  | some (.ok m) => m.authFile
  | _ => none

end Muster.CommandLine

open Muster in
/-- Runs a management node. -/
def main (args : List String) : IO UInt32 := do
  IO.eprintln Service.startLine
  let vars := CommandLine.variablesOf ((← CommandLine.contentOf? "/proc/self/environ").getD [])
  let directory ← CommandLine.workingDirectory
  let envPaths := CommandLine.searchPaths directory ((Service.envFileArg args).getD Settings.defaultEnvFile)
  let envFiles ← CommandLine.filesAt directory envPaths
  let authPaths := (CommandLine.authFile? vars args envFiles).toList
  let files ← CommandLine.filesAt directory (envPaths ++ authPaths)
  match Service.prepare vars args files with
  | none => return Service.abortCode.toUInt32
  | some (.error e) =>
    IO.eprintln ("Error: " ++ e)
    return 1
  | some (.ok plan) =>
    IO.eprintln (Service.listeningLine plan.settings)
    let _ ← (← IO.getStdin).readToEnd
    Service.stopLines.forM IO.eprintln
    return 0
