import Muster.Http.Routing
import Muster.Worker.Engine

/-! # The commands a worker serves

The interface through which the management node reaches the engine of a worker. Failures of an engine that
changes something are results like others; failures of one that is asked are errors. -/

namespace Muster.Worker

open Http

/-- What a route of the interface does. -/
inductive Action
  | ping
  | load
  | unload
  | status
  | registerStorage
  | storages
  | unregisterStorage
  deriving DecidableEq, Repr

/-- The routes of the interface. -/
def routes : List (Route Action) :=
  [⟨[.fixed "cluster", .fixed "ping"], [("GET", .ping)]⟩,
    ⟨[.fixed "cluster", .fixed "data-sources", .name, .fixed "load"], [("POST", .load)]⟩,
    ⟨[.fixed "cluster", .fixed "data-sources", .name, .fixed "unload"], [("POST", .unload)]⟩,
    ⟨[.fixed "cluster", .fixed "data-sources", .name, .fixed "status"], [("GET", .status)]⟩,
    ⟨[.fixed "cluster", .fixed "storages"], [("POST", .registerStorage), ("GET", .storages)]⟩,
    ⟨[.fixed "cluster", .fixed "storages", .name], [("DELETE", .unregisterStorage)]⟩]

/-- The command that an action gives to the engine. -/
def commandOf (a : Action) (name : List Char) (r : Request) : Except Response Command :=
  match a with
  | .ping => .ok .version
  | .load => (nameOf name).map .load
  | .unload => (nameOf name).map .unload
  | .status => (nameOf name).map .status
  | .registerStorage => (bodyOf Registration.read r).map .registerStorage
  | .storages => .ok .storages
  | .unregisterStorage => (nameOf name).map .unregisterStorage

/-- The result of a command that changes something. -/
def resultOf (done : String) : Answer → Response
  | .failed chain => .json (CommandResult.failed (chainText chain.reverse)).encode
  | _ => .json (CommandResult.ok done).encode

/-- The answer to a question that the engine failed to answer. -/
def failureOf (chain : List String) : Response :=
  .ofError (.ofChain chain)

/-- The answer to a request, from what the engine answers to its command. -/
def respond : Command → Answer → Response
  | .load n, a => resultOf ("data source " ++ n ++ " loaded") a
  | .unload n, a => resultOf ("data source " ++ n ++ " unloaded") a
  | .registerStorage r, a => resultOf ("storage " ++ r.name ++ " registered") a
  | .unregisterStorage n, a => resultOf ("storage " ++ n ++ " unregistered") a
  | _, .failed chain => failureOf chain
  | .status _, .text s => .json (StatusNotice.encode ⟨s⟩)
  | _, .text v => .json (VersionNotice.encode ⟨v⟩)
  | _, .entries l => .json (.array (l.map StorageEntry.encode))
  | _, .done => .json (.array [])

/-- What a request to a worker comes to: an answer at once, or a command to the engine, whose answer is
delivered. -/
inductive Handling
  | answered (r : Response)
  | command (c : Command) (headOnly : Bool)
  deriving DecidableEq, Repr

/-- Takes a request to a worker with the given secret. -/
def handle (secret : String) (r : Request) : Handling :=
  match dispatch secret routes r with
  | .error response => .answered response
  | .ok a =>
    match commandOf a.action a.name r with
    | .error response => .answered (a.deliver response)
    | .ok c => .command c a.headOnly

/-- The answer that an engine's answer to a command becomes. -/
def delivered (c : Command) (headOnly : Bool) (a : Answer) : Response :=
  if headOnly then (respond c a).headOnly else respond c a

end Muster.Worker
