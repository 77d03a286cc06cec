import Muster.Settings.Load

/-! # The management service

One run of the management node from its start to the signal that ends it: the settings it loads, the lines it
logs, and how it ends. -/

namespace Muster.Service

open Settings

/-- The env file that the arguments name: what follows the first `--env-file` that anything follows. -/
def envFileArg : List String → Option String
  | a :: b :: r => if a = "--env-file" then some b else envFileArg (b :: r)
  | _ => none

/-- Why the address to listen on cannot be used. -/
inductive BindError
  | noPort
  | invalidPort
  deriving DecidableEq, Repr

/-- The text of an error. -/
def BindError.text : BindError → String
  | .noPort => "invalid socket address"
  | .invalidPort => "invalid port value"

/-- What is wrong with an address to listen on: a host, a colon and a port of 16 bits. -/
def bindError? (address : String) : Option BindError :=
  let cs := address.toList
  if !cs.contains ':' then some .noPort
  else
    let port := (cs.reverse.takeWhile (· ≠ ':')).reverse
    let digits := match port with | '+' :: r => r | r => r
    if digits.isEmpty || digits.any (!·.isDigit) || 65536 ≤ Json.digitsValue digits then some .invalidPort
    else none

/-- A management node that is ready to listen. -/
structure Plan where
  settings : Management
  common : CommonSettings

/-- The management node of some settings, if it can be made ready. -/
def planOf (files : Files) (m : Management) : Except String Plan :=
  match m.common files with
  | .error e => .error e.text
  | .ok common =>
    match bindError? m.bind with
    | some e => .error e.text
    | none => .ok ⟨m, common⟩

/-- Gets a management node ready; `none` where the env file ends the process. -/
def prepare (vars : Variables) (args : List String) (files : Files) : Option (Except String Plan) :=
  (loadManagement vars (envFileArg args) files).map fun
    | .error e => .error e.text
    | .ok m => planOf files m

/-- The line that a run begins with. -/
def startLine : String := "INFO Starting cluster management server..."

/-- The line that says what a node listens on. -/
def listeningLine (m : Management) : String :=
  "INFO Management server listening on " ++ m.bind ++ " (cluster version " ++ m.clusterVersion ++ ", timeout " ++
    m.timeout.text ++ ", check interval " ++ m.checkInterval.text ++ ")"

/-- The lines that a run ends with once the signal is there. -/
def stopLines : List String := ["INFO Shutdown signal received", "INFO Management server stopped"]

/-- How a run went: the exit code, the lines it logged, and the error that ended it. -/
structure Report where
  exit : Nat
  log : List String
  error : Option String
  deriving DecidableEq, Repr

/-- The exit code of a process that ends in the middle of its work. -/
def abortCode : Nat := 101

/-- A run that is ended by the signal as soon as it listens. -/
def run (vars : Variables) (args : List String) (files : Files) : Report :=
  match prepare vars args files with
  | none => ⟨abortCode, [startLine], none⟩
  | some (.error e) => ⟨1, [startLine], some e⟩
  | some (.ok plan) => ⟨0, startLine :: listeningLine plan.settings :: stopLines, none⟩

end Muster.Service
