import Muster.Cluster.Basic

/-! # The interface of the management node

The routes through which workers join and leave and operators command the cluster. All are behind the guard, and
only two of them change who belongs to the cluster: `POST` and `DELETE` on `/node`. -/

namespace Muster.Cluster

open Http

/-- What a route of the interface does. -/
inductive Action
  | version
  | enroll
  | remove
  | members
  | status
  | load
  | unload
  | registerStorage
  | storages
  | unregisterStorage
  deriving DecidableEq, Repr

/-- The routes of the interface. -/
def routes : List (Route Action) :=
  [⟨[.fixed "version"], [("GET", .version)]⟩,
    ⟨[.fixed "node"], [("POST", .enroll), ("DELETE", .remove), ("GET", .members)]⟩,
    ⟨[.fixed "data-source", .name, .fixed "status"], [("GET", .status)]⟩,
    ⟨[.fixed "data-source", .name, .fixed "load"], [("GET", .load), ("POST", .load)]⟩,
    ⟨[.fixed "data-source", .name, .fixed "unload"], [("GET", .unload), ("POST", .unload)]⟩,
    ⟨[.fixed "storages"], [("POST", .registerStorage), ("GET", .storages)]⟩,
    ⟨[.fixed "storages", .name], [("DELETE", .unregisterStorage)]⟩]

/-- Reads the fields of a query that are known; one that is missing is empty, and none is there twice. -/
def fieldsOf (known : List String) (r : Request) : Except Response (String → String) :=
  let fields := Text.formPairs (r.query.getD [])
  if known.any fun name => 1 < fields.countP (·.1 = name) then
    .error (.text 400 "Failed to deserialize query string")
  else .ok fun name => (fields.lookup name).getD ""

/-- The answer to a command that was carried out, or failed. -/
def resultOf (done : String) : Except ClusterError Unit → Response
  | .ok () => .json (CommandResult.ok done).encode
  | .error e => .ofError e

/-- The answer to a worker that registers. -/
def enrollAnswer (c : Cluster) (r : Request) : Cluster × Response :=
  match fieldsOf ["name", "url", "version"] r with
  | .error response => (c, response)
  | .ok field =>
    match c.enroll (field "name") (field "url") (field "version") with
    | (c, .ok common) => (c, .json common.encode)
    | (c, .error e) => (c, .ofError e)

/-- The answer to a worker that leaves. -/
def removeAnswer (c : Cluster) (r : Request) : Cluster × Response :=
  match fieldsOf ["name"] r with
  | .error response => (c, response)
  | .ok field =>
    let name := field "name"
    if name = "" then (c, .ofError (.missingArgument "name"))
    else
      let (c, x) := c.remove name
      (c, resultOf ("node " ++ name ++ " unregistered") x)

/-- The answer to a command, with the time that it takes. -/
def commandAnswer (c : Cluster) (done : String) (x : Network × Reply Unit) : Cluster × Nat × Response :=
  let (c, reply) := c.after x
  (c, reply.after, resultOf done reply.outcome)

/-- The answer to a request that reached an action, with the time that it takes; whoever asked waits no longer
than `limit`. -/
def perform (c : Cluster) (limit : Nat) (a : Action) (name : List Char) (r : Request) : Cluster × Nat × Response :=
  match a with
  | .version => (c, 0, .json (VersionNotice.encode ⟨c.roster.policy.clusterVersion⟩))
  | .members => (c, 0, .json (.array (c.roster.rows.map NodeStatus.encode)))
  | .enroll => let (c, response) := c.enrollAnswer r; (c, 0, response)
  | .remove => let (c, response) := c.removeAnswer r; (c, 0, response)
  | .storages =>
    let (c, reply) := c.after (c.roster.storages c.net limit)
    match reply.outcome with
    | .ok l => (c, reply.after, .json (.array (l.map StorageEntry.encode)))
    | .error e => (c, reply.after, .ofError e)
  | .registerStorage =>
    match bodyOf Credential.read r with
    | .error response => (c, 0, response)
    | .ok credential =>
      c.commandAnswer ("storage " ++ credential.name ++ " registered") (c.roster.registerStorage c.net limit credential)
  | .status =>
    match nameOf name with
    | .error response => (c, 0, response)
    | .ok name =>
      let (c, after, rows) := c.after (c.roster.status c.net limit name)
      (c, after, .json (.array (rows.map SourceReport.encode)))
  | .load =>
    match nameOf name with
    | .error response => (c, 0, response)
    | .ok name => c.commandAnswer ("data source " ++ name ++ " loaded") (c.roster.load c.net limit name)
  | .unload =>
    match nameOf name with
    | .error response => (c, 0, response)
    | .ok name => c.commandAnswer ("data source " ++ name ++ " unloaded") (c.roster.unload c.net limit name)
  | .unregisterStorage =>
    match nameOf name with
    | .error response => (c, 0, response)
    | .ok name =>
      c.commandAnswer ("storage " ++ name ++ " unregistered") (c.roster.unregisterStorage c.net limit name)

/-- The answer to a request, with the time that it takes. -/
def serve (c : Cluster) (limit : Nat) (r : Request) : Cluster × Nat × Response :=
  match dispatch c.roster.policy.secret routes r with
  | .error response => (c, 0, response)
  | .ok a =>
    let (c, after, response) := c.perform limit a.action a.name r
    (c, after, a.deliver response)

end Muster.Cluster
