import Muster.Roster.FanOut

/-! # Clusters

A management node in its network: the roster it keeps, the hosts around it, and the clock by which nodes are
checked. -/

namespace Muster

/-- A cluster. -/
structure Cluster where
  clock : Clock
  net : Network
  roster : Roster

namespace Cluster

/-- A cluster at its beginning: nobody is enrolled. -/
def start (policy : Policy) (common : CommonSettings) (net : Network) : Cluster :=
  ⟨.start, net, .empty policy common⟩

/-- Lets happen what is due at nodes up to the time `until_`, one node after another: no check changes what
another one finds. Each node begins at the time that the clock shows. -/
def watchAll (until_ : Nat) (net : Network) (clock : Clock) : List Node → Network × Clock × List Node
  | [] => (net, clock, [])
  | n :: r =>
    let (net, after, n) := n.watch net clock until_
    let (net, clock, r) := watchAll until_ net { clock with taken := after.taken } r
    (net, clock, n :: r)

/-- Time goes by. -/
def advance (c : Cluster) (span : Nat) : Cluster :=
  let time := c.clock.now + span
  let (net, clock, nodes) := watchAll time c.net c.clock c.roster.nodes
  ⟨clock.goTo time, net, { c.roster with nodes := nodes }⟩

/-- Enrolls a worker, and gives the settings that are pushed to it. -/
def enroll (c : Cluster) (name url version : String) : Cluster × Except ClusterError CommonSettings :=
  match c.roster.enroll c.clock name url version with
  | .error e => (c, .error e)
  | .ok r => ({ c with clock := c.clock.take, roster := r }, .ok c.roster.common)

/-- Removes a member. -/
def remove (c : Cluster) (name : String) : Cluster × Except ClusterError Unit :=
  match c.roster.remove name with
  | .error e => (c, .error e)
  | .ok r => ({ c with roster := r }, .ok ())

/-- What a call gives changes nothing but the network. -/
def after {α : Type} (c : Cluster) (x : Network × α) : Cluster × α :=
  ({ c with net := x.1 }, x.2)

end Cluster

end Muster
