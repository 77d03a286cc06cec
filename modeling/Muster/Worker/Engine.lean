import Muster.Credential
import Muster.Document.Status

/-! # Query engines

The engine of a worker as the cluster's commands see it: which data sources are loaded, which storages are
registered, and how its commands fail or take time. A command is recorded when it begins and acts when it is
done; one that is given up meanwhile never acts. -/

namespace Muster.Worker

/-- A command to an engine. -/
inductive Command
  | version
  | load (name : String)
  | unload (name : String)
  | status (name : String)
  | registerStorage (r : Registration)
  | unregisterStorage (name : String)
  | storages
  deriving DecidableEq, Repr

/-- The method that a command calls. -/
def Command.method : Command → String
  | .version => "version"
  | .load _ => "load"
  | .unload _ => "unload"
  | .status _ => "status"
  | .registerStorage _ => "register_storage"
  | .unregisterStorage _ => "unregister_storage"
  | .storages => "storages"

/-- The name that a command is about, if it is about one. -/
def Command.subject : Command → String
  | .load n | .unload n | .status n | .unregisterStorage n => n
  | .registerStorage r => r.name
  | .version | .storages => ""

/-- The record of a command: its method, and the name behind it if there is one. -/
def Command.record (c : Command) : String :=
  if c.subject = "" then c.method else c.method ++ " " ++ c.subject

/-- What an engine answers. A failure is a chain of causes, innermost first. -/
inductive Answer
  | done
  | text (s : String)
  | entries (l : List StorageEntry)
  | failed (chain : List String)
  deriving DecidableEq, Repr

/-- The state of an engine. `"*"` stands for the methods that `fail` and `delay` do not name. -/
structure Engine where
  version : String
  tag : String
  fail : List (String × List String)
  /-- How many milliseconds a method takes. -/
  delay : List (String × Nat)
  loaded : List String
  storages : List Registration
  /-- The commands that began since they were last asked for. -/
  calls : List String
  deriving DecidableEq, Repr

namespace Engine

/-- What a table has for a method. -/
def forMethod {α : Type} (table : List (String × α)) (c : Command) : Option α :=
  match table.lookup c.method with
  | some a => some a
  | none => table.lookup "*"

/-- How long a command takes, in nanoseconds. -/
def delayOf (e : Engine) (c : Command) : Nat :=
  (forMethod e.delay c).getD 0 * 1000000

/-- A registration as the engine lists it. -/
def entryOf (e : Engine) (r : Registration) : StorageEntry :=
  ⟨e.tag, r.name, r.kind, r.scope, "region=" ++ r.region⟩

/-- A command begins. -/
def begin (e : Engine) (c : Command) : Engine :=
  { e with calls := e.calls ++ [c.record] }

/-- A command is done: it fails as the engine's table says, or it acts. -/
def finish (e : Engine) (c : Command) : Engine × Answer :=
  match forMethod e.fail c with
  | some chain => (e, .failed chain)
  | none =>
    match c with
    | .version => (e, .text e.version)
    | .load n => ({ e with loaded := e.loaded ++ [n] }, .done)
    | .unload n => ({ e with loaded := e.loaded.filter (· ≠ n) }, .done)
    | .status n => (e, .text (if n ∈ e.loaded then "attached" else "detached"))
    | .registerStorage r => ({ e with storages := e.storages ++ [r] }, .done)
    | .unregisterStorage n => ({ e with storages := e.storages.filter (·.name ≠ n) }, .done)
    | .storages => (e, .entries (e.storages.map e.entryOf))

end Engine

end Muster.Worker
