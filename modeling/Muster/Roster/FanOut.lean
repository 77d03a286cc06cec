import Muster.Roster.Basic

/-! # Commands to all nodes

A command goes to all members at once. It ends when all calls have, or when the time for one call is over; what
has not ended by then counts as timed out. The outcomes are told in the order of the members, whatever the order
in which the calls ended (`collect`). -/

namespace Muster

/-- The outcome of one member's call, under the member's name. -/
abbrev Told (α : Type) := String × Except ClusterError α

/-- Puts outcomes into the places of their calls, in the order in which the calls ended. -/
def place {α : Type} (slots : List (Option (Except ClusterError α))) (ended : List (Nat × Except ClusterError α)) :
    List (Option (Except ClusterError α)) :=
  ended.foldl (fun slots (i, x) => slots.set i (some x)) slots

/-- The outcome of a call that did not end: the time was over, or the call was lost. -/
def unended {α : Type} (deadline : Duration) (timedOut : Bool) : Except ClusterError α :=
  .error (if timedOut then .timeout deadline else .worker "node call aborted")

/-- Tells the outcome of each member's call, from the calls that ended in time. -/
def collect {α : Type} (deadline : Duration) (timedOut : Bool) (names : List String)
    (ended : List (Nat × Except ClusterError α)) : List (Told α) :=
  names.zip ((place (names.map fun _ => none) ended).map (·.getD (unended deadline timedOut)))

/-- Makes a call to each node. -/
def callEach {α : Type} (call : Node → Network → Network × Reply α) : Network → List Node → Network × List (Reply α)
  | net, [] => (net, [])
  | net, n :: r =>
    let (net, reply) := call n net
    let (net, replies) := callEach call net r
    (net, reply :: replies)

/-- The calls that ended before the deadline, in the order in which they ended. -/
def endedBefore {α : Type} (deadline : Nat) (replies : List (Reply α)) : List (Nat × Except ClusterError α) :=
  let byEnd := replies.zipIdx.mergeSort fun a b => a.1.after ≤ b.1.after
  (byEnd.filter fun (reply, _) => reply.after < deadline).map fun (reply, i) => (i, reply.outcome)

/-- The time at which a command to all nodes is over. -/
def overAfter {α : Type} (deadline : Nat) (replies : List (Reply α)) : Nat :=
  min deadline (replies.foldl (fun t reply => max t reply.after) 0)

namespace Roster

/-- Makes a call to all members: gives the time it takes and what each call came to. -/
def fanOut {α : Type} (r : Roster) (net : Network) (call : Node → Network → Network × Reply α) :
    Network × Nat × List (Told α) :=
  let nodes := r.memberNodes
  let deadline := r.policy.timeout
  let (net, replies) := callEach call net nodes
  let timedOut := replies.any fun reply => deadline.nanos ≤ reply.after
  (net, overAfter deadline.nanos replies,
    collect deadline timedOut (nodes.map Node.name) (endedBefore deadline.nanos replies))

/-- The failures of a command to all nodes. -/
def failures {α : Type} (action : String) (told : List (Told α)) : List NodeFailure :=
  told.filterMap fun (name, x) =>
    match x with
    | .ok _ => none
    | .error e => some ⟨name, action, e.text⟩

/-- A command succeeds if it succeeds on all nodes. -/
def verdict {α : Type} (action : String) (told : List (Told α)) : Except ClusterError Unit :=
  let failed := failures action told
  if failed.isEmpty then .ok () else .error (.broadcast failed)

/-- Gives a command to all members. -/
def broadcast (r : Roster) (net : Network) (action : String) (call : Node → Network → Network × Reply Unit) :
    Network × Reply Unit :=
  let (net, after, told) := r.fanOut net call
  (net, ⟨after, verdict action told⟩)

/-! ### The commands

The sender of each waits no longer than `limit`. -/

/-- Loads a data source on all nodes. -/
def load (r : Roster) (net : Network) (limit : Nat) (name : String) : Network × Reply Unit :=
  r.broadcast net ("load data source " ++ name) fun n net => n.load net limit name

/-- Unloads a data source on all nodes. -/
def unload (r : Roster) (net : Network) (limit : Nat) (name : String) : Network × Reply Unit :=
  r.broadcast net ("unload data source " ++ name) fun n net => n.unload net limit name

/-- Registers a storage on all nodes. A credential that breaks a rule is refused before any node is asked. -/
def registerStorage (r : Roster) (net : Network) (limit : Nat) (c : Credential) : Network × Reply Unit :=
  match c.register with
  | .error e => (net, ⟨0, .error e⟩)
  | .ok _ => r.broadcast net ("register storage " ++ c.name) fun n net => n.registerStorage net limit c

/-- Unregisters a storage on all nodes. -/
def unregisterStorage (r : Roster) (net : Network) (limit : Nat) (name : String) : Network × Reply Unit :=
  r.broadcast net ("unregister storage " ++ name) fun n net => n.unregisterStorage net limit name

/-- The state of a data source on one node; a node that fails has the state `error`. -/
def report : Told String → SourceReport
  | (name, .ok status) => ⟨name, status, ""⟩
  | (name, .error e) => ⟨name, "error", e.text⟩

/-- Asks all nodes for the state of a data source: gives the time it takes and a row for each member. -/
def status (r : Roster) (net : Network) (limit : Nat) (name : String) : Network × Nat × List SourceReport :=
  let (net, after, told) := r.fanOut net fun n net => n.status net limit name
  (net, after, told.map report)

/-- A node was not asked because it is not ready. -/
def isSkipped {α : Type} : Told α → Bool
  | (_, .error .notReady) => true
  | _ => false

/-- What the nodes that succeeded list. -/
def entries (told : List (Told (List StorageEntry))) : List StorageEntry :=
  told.flatMap fun (_, x) =>
    match x with
    | .ok l => l
    | .error _ => []

/-- Asks all nodes that are ready for their storages. -/
def storages (r : Roster) (net : Network) (limit : Nat) : Network × Reply (List StorageEntry) :=
  let (net, after, told) := r.fanOut net fun n net => n.storages net limit
  let asked := told.filter (!isSkipped ·)
  (net, ⟨after, (verdict "list storages" asked).map fun _ => entries asked⟩)

end Roster

end Muster
