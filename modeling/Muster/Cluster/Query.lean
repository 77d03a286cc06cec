import Muster.Cluster.Link
import Muster.Worker.Function

/-! # Cluster functions in queries

Queries on a worker call cluster operations by name. Arguments are looked at before anything is sent.
Operations that change the cluster answer with a result even if they fail; questions fail as a whole, except the
one for the version, which is empty if nobody tells it. -/

namespace Muster

open Json Worker

/-- Why a call of a function fails. -/
inductive QueryError
  | unknownFunction (name : String)
  | argumentCount (f : Function) (got : Nat)
  /-- An argument is no text. -/
  | argumentType (f : Function)
  | invalidCredential (f : Function)
  | failed (text : String)
  deriving DecidableEq, Repr

/-- The text of an error. -/
def QueryError.text : QueryError → String
  | .unknownFunction name => "unknown function " ++ name
  | .argumentCount f got =>
    f.name ++ ": invalid number of arguments, expected " ++ toString f.arity ++ " got " ++ toString got
  | .argumentType f => f.name ++ ": invalid argument type, expected string"
  | .invalidCredential f => f.name ++ ": invalid credential"
  | .failed text => text

/-- A function with its arguments. -/
inductive Query
  | version
  | nodes
  | status (name : String)
  | load (name : String)
  | unload (name : String)
  | registerStorage (c : Credential)
  | unregisterStorage (name : String)
  | storages

/-- Takes the arguments of a function. -/
def Query.ofArguments (f : Function) (arguments : List Value) : Except QueryError Query :=
  let text : Except QueryError String :=
    match arguments with
    | .string s :: _ => .ok s
    | _ => .error (.argumentType f)
  if arguments.length ≠ f.arity then .error (.argumentCount f arguments.length)
  else
    match f with
    | .version => .ok .version
    | .nodes => .ok .nodes
    | .registeredStorages => .ok .storages
    | .dataSourceStatus => text.map .status
    | .loadDataSource => text.map .load
    | .unloadDataSource => text.map .unload
    | .unregisterStorage => text.map .unregisterStorage
    | .registerStorage =>
      match (arguments.headD .null).decodeAs Credential.read with
      | .ok c => .ok (.registerStorage c)
      | .error _ => .error (.invalidCredential f)

/-- The query that calls a function by name. -/
def Query.read (name : String) (arguments : List Value) : Except QueryError Query :=
  match Function.ofName? name with
  | none => .error (.unknownFunction name)
  | some f => Query.ofArguments f arguments

namespace Cluster

/-- Asks, and gives the document of the answer. -/
def askFor {α : Type} (c : Cluster) (u : Uplink) (q : Question α) (encode : α → Value) :
    Outcome (Except QueryError Value) :=
  let x := c.ask u q
  ⟨x.cluster, x.after,
    match x.result with
    | .ok a => .ok (encode a)
    | .error e => .error (.failed e)⟩

/-- Gives a command, and tells how it ended. -/
def carryOut (c : Cluster) (u : Uplink) (q : Question Unit) (done : String) : Outcome (Except QueryError Value) :=
  let x := c.ask u q
  ⟨x.cluster, x.after,
    .ok (match x.result with
      | .ok () => CommandResult.ok done
      | .error e => CommandResult.failed e).encode⟩

/-- Answers a query on a worker. -/
def answer (c : Cluster) (u : Uplink) : Query → Outcome (Except QueryError Value)
  | .version => let x := c.versionFor u; ⟨x.cluster, x.after, .ok (.string x.result)⟩
  | .nodes => c.askFor u Uplink.askNodes fun l => .array (l.map NodeStatus.encode)
  | .status name => c.askFor u (Uplink.askStatus name) fun l => .array (l.map SourceReport.encode)
  | .storages => c.askFor u Uplink.askStorages fun l => .array (l.map StorageEntry.encode)
  | .load name => c.carryOut u (Uplink.load name) "data source was loaded"
  | .unload name => c.carryOut u (Uplink.unload name) "data source was unloaded"
  | .registerStorage credential => c.carryOut u (Uplink.registerStorage credential) "storage registered"
  | .unregisterStorage name => c.carryOut u (Uplink.unregisterStorage name) "storage unregistered"

/-- Answers the call of a function on a worker. Without a query nothing is asked. -/
def callFunction (c : Cluster) (u : Uplink) (name : String) (arguments : List Value) :
    Outcome (Except QueryError Value) :=
  match Query.read name arguments with
  | .error e => ⟨c, 0, .error e⟩
  | .ok q => c.answer u q

end Cluster

end Muster
