import Muster.Cluster.Interface
import Muster.Worker.Uplink

/-! # Workers at work in their cluster

What happens when a worker calls its management node: the request reaches the node's interface, which answers
it from the cluster's state, or whatever else is served at the address. A worker that is told new settings takes
them over, and one that is not keeps its own. -/

namespace Muster

/-- What came of a call by a worker: the cluster afterwards, the time the worker waited, and the outcome. -/
structure Outcome (α : Type) where
  cluster : Cluster
  after : Nat
  result : α

namespace Cluster

/-- Sends a request into the cluster and waits for the answer, at most for the time `within`. -/
def send (c : Cluster) (within : Nat) (o : Outgoing) : Outcome Exchange :=
  match if c.net.connected then c.net.services.lookup o.url.server else none with
  | some (.management _) =>
    let net := { c.net with arrived := c.net.arrived ++ [⟨o.url.server, o.request⟩] }
    let (c, after, response) := { c with net := net }.serve within o.request
    if after < within then ⟨c, after, .answered response.onWire⟩ else ⟨c, within, .timedOut⟩
  | _ =>
    let (net, after, x) := c.net.send within o
    ⟨{ c with net := net }, after, x⟩

/-- Makes a call by a worker's uplink. -/
def call {α : Type} (c : Cluster) (u : Uplink) (call : Call α) : Outcome (Except CallError α) :=
  match u.client.request call with
  | .error e => ⟨c, 0, .error e⟩
  | .ok o =>
    let x := c.send u.timeout.nanos o
    ⟨x.cluster, x.after, call.outcome o.url x.result⟩

/-- The worker joins: gives the settings that are pushed to it. -/
def join (c : Cluster) (u : Uplink) : Outcome (Except String CommonSettings) :=
  let x := c.call u u.joining
  ⟨x.cluster, x.after, x.result.mapError Uplink.joinFailure⟩

/-- The worker leaves. It goes whether or not that is heard. -/
def leave (c : Cluster) (u : Uplink) : Outcome Unit :=
  let x := c.call u u.leaving
  ⟨x.cluster, x.after, ()⟩

/-- The version that the cluster runs, as a worker learns it: empty if it learns none. -/
def versionFor (c : Cluster) (u : Uplink) : Outcome String :=
  let x := c.call u Uplink.askVersion
  ⟨x.cluster, x.after, match x.result with | .ok version => version | .error _ => ""⟩

/-- A worker asks its management node, or has it give a command. -/
def ask {α : Type} (c : Cluster) (u : Uplink) (q : Question α) : Outcome (Except String α) :=
  let x := c.call u q.call
  ⟨x.cluster, x.after, x.result.mapError q.failure⟩

/-- How a worker that starts is connected. -/
inductive Connection
  /-- It has no management node. -/
  | standalone
  | joined (u : Uplink)
  deriving DecidableEq

/-- Connects a worker that starts: gives its settings afterwards, and how it is connected or why it is not. -/
def connect (c : Cluster) (w : Settings.Worker) : Outcome (Settings.Worker × Except String Connection) :=
  if w.isClusterMode then
    match Uplink.make w with
    | .error e => ⟨c, 0, w, .error e.text⟩
    | .ok u =>
      let x := c.join u
      ⟨x.cluster, x.after,
        match x.result with
        | .ok pushed => (w.apply pushed, .ok (.joined u))
        | .error e => (w, .error e)⟩
  else ⟨c, 0, w, .ok .standalone⟩

end Cluster

end Muster
