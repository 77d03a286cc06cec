import Muster.Credential
import Muster.Document.Status
import Muster.Network.Client
import Muster.Node.Health
import Muster.Node.Schedule
import Muster.Settings.Management

/-! # Nodes

A worker as the management node knows it: its name and address, a client for its commands, what is known of
its health, and when it is checked. Commands are relayed to a worker only while it is ready, and wait for it no
longer than the policy allows. What comes of a command never changes what is known of the node. -/

namespace Muster

/-- What a management node asks of its workers: the secret, the version to run, how often they are checked and
how long a call may take. -/
structure Policy where
  secret : String
  clusterVersion : String
  interval : Duration
  timeout : Duration
  deriving DecidableEq, Repr

/-- The policy of a management node's settings. -/
def Policy.ofSettings (m : Settings.Management) : Policy :=
  ⟨m.secret, m.clusterVersion, m.checkInterval, m.timeout⟩

/-- All settings give checks an interval and calls some time. -/
theorem Policy.nanos_ofSettings (m : Settings.Management) :
    0 < (ofSettings m).interval.nanos ∧ 0 < (ofSettings m).timeout.nanos :=
  ⟨Settings.nanos_secondsOr (by decide) _, Settings.nanos_secondsOr (by decide) _⟩

/-- A node. -/
structure Node where
  name : String
  url : String
  client : Client
  policy : Policy
  health : Health
  schedule : Schedule Pending
  deriving DecidableEq

/-- What came of a call to a node, and after how many nanoseconds. -/
structure Reply (α : Type) where
  after : Nat
  outcome : Except ClusterError α

namespace Node

/-- Makes a node that registers at a moment and is not checked yet. -/
def make (name url version : String) (policy : Policy) (moment : Nat) : Except ClientError Node :=
  match Client.make "node" url policy.secret with
  | .error e => .error e
  | .ok client => .ok ⟨name, url, client, policy, .registered moment version, .stopped⟩

/-- The node can be given commands. -/
def isReady (n : Node) : Bool := n.health.isReady n.policy.clusterVersion

/-- The node is being checked. -/
def isRunning (n : Node) : Bool := n.schedule.isRunning

/-- The node's row in the member list. -/
def row (n : Node) : NodeStatus :=
  ⟨n.name, n.url, n.health.version, n.health.error.getD "", .ofUnixNanos n.health.lastSeen, n.isReady⟩

/-- Starts the checks of a node, anew if it has some. -/
def start (n : Node) (now : Nat) : Node :=
  { n with schedule := n.schedule.start now n.policy.interval.nanos n.policy.timeout.nanos }

/-- Stops the checks of a node. -/
def stop (n : Node) : Node := { n with schedule := n.schedule.stop }

/-- What a call to the node comes to for the management node. -/
def outcome {α : Type} (n : Node) : Except CallError α → Except ClusterError α
  | .ok a => .ok a
  | .error (.timedOut _) => .error (.timeout n.policy.timeout)
  | .error e => .error (.worker e.text)

/-- Takes the outcome of a check at a moment. -/
def record (n : Node) (moment : Nat) (x : Except ClusterError String) : Node :=
  { n with health := n.health.record moment x }

/-! ### Commands

Each goes to the worker for which `n` stands; its sender waits no longer than `limit`. -/

/-- Relays a call to a node that is ready. -/
def relay {α : Type} (n : Node) (net : Network) (limit : Nat) (call : Call α) : Network × Reply α :=
  if n.isReady then
    let (net, after, x) := n.client.send net (min limit n.policy.timeout.nanos) call
    (net, ⟨after, n.outcome x⟩)
  else (net, ⟨0, .error .notReady⟩)

/-- Loads a data source. -/
def load (n : Node) (net : Network) (limit : Nat) (name : String) : Network × Reply Unit :=
  n.relay net limit (WorkerCall.load name)

/-- Unloads a data source. -/
def unload (n : Node) (net : Network) (limit : Nat) (name : String) : Network × Reply Unit :=
  n.relay net limit (WorkerCall.unload name)

/-- Asks for the state of a data source. -/
def status (n : Node) (net : Network) (limit : Nat) (name : String) : Network × Reply String :=
  n.relay net limit (WorkerCall.status name)

/-- Registers a storage. The credential is looked at once the node is known to be ready. -/
def registerStorage (n : Node) (net : Network) (limit : Nat) (c : Credential) : Network × Reply Unit :=
  if n.isReady then
    match c.register with
    | .error e => (net, ⟨0, .error e⟩)
    | .ok r => n.relay net limit (WorkerCall.registerStorage r)
  else (net, ⟨0, .error .notReady⟩)

/-- Unregisters a storage. -/
def unregisterStorage (n : Node) (net : Network) (limit : Nat) (name : String) : Network × Reply Unit :=
  n.relay net limit (WorkerCall.unregisterStorage name)

/-- Asks for the registered storages; they are listed under the node's name. -/
def storages (n : Node) (net : Network) (limit : Nat) : Network × Reply (List StorageEntry) :=
  let (net, reply) := n.relay net limit WorkerCall.storages
  (net, ⟨reply.after, reply.outcome.map (·.map ({ · with node := n.name }))⟩)

end Node

end Muster
