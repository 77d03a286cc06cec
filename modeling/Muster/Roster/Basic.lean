import Muster.Document.CommonSettings
import Muster.Node.Watch

/-! # The roster

Who belongs to the cluster. Members are filed under their names in the order in which they registered; a worker
that registers takes the place of members with its name or its address. Members are being checked, and nodes
that are members no longer are not. -/

namespace Muster

/-- The roster of a management node: its policy, the settings that it pushes, every node that was ever made,
and the members, each a name and the place of its node. -/
structure Roster where
  policy : Policy
  common : CommonSettings
  nodes : List Node
  members : List (String × Nat)
  deriving DecidableEq

namespace Roster

/-- A roster without members. -/
def empty (policy : Policy) (common : CommonSettings) : Roster := ⟨policy, common, [], []⟩

/-- Changes a node. -/
def modify (r : Roster) (id : Nat) (f : Node → Node) : Roster :=
  { r with nodes := r.nodes.modify id f }

/-- Changes some nodes. -/
def modifyAll (r : Roster) (ids : List Nat) (f : Node → Node) : Roster :=
  ids.foldl (fun r id => r.modify id f) r

/-- The nodes of the members, in order. -/
def memberNodes (r : Roster) : List Node :=
  r.members.filterMap fun (_, id) => r.nodes[id]?

/-- The place of a member's node. -/
def find? (r : Roster) (name : String) : Option Nat :=
  r.members.lookup name

/-- The member list. -/
def rows (r : Roster) : List NodeStatus := r.memberNodes.map Node.row

/-- A member gives way to a worker that registers: it has the same name or the same address. -/
def givesWay (r : Roster) (name url : String) (m : String × Nat) : Bool :=
  m.1 = name || r.nodes[m.2]?.any (·.url = url)

/-- Puts a new node into the place of the members that give way to it, and starts its checks. -/
def seat (r : Roster) (now : Nat) (n : Node) : Roster :=
  let old := r.members.filter (r.givesWay n.name n.url)
  let stopped := r.modifyAll (old.map (·.2)) Node.stop
  { stopped with
    nodes := stopped.nodes ++ [n.start now]
    members := r.members.filter (!r.givesWay n.name n.url ·) ++ [(n.name, r.nodes.length)] }

/-- Enrolls a worker, which counts under its address if it has no name. -/
def enroll (r : Roster) (clock : Clock) (name url version : String) : Except ClusterError Roster :=
  if url = "" then .error (.missingArgument "url")
  else
    match Node.make (if name = "" then url else name) url version r.policy clock.moment with
    | .error e => .error (.invalidParameter ("url: " ++ e.text))
    | .ok n => .ok (r.seat clock.now n)

/-- Removes a member and stops its checks. -/
def remove (r : Roster) (name : String) : Except ClusterError Roster :=
  match r.find? name with
  | none => .error (.nodeNotFound name)
  | some id => .ok { r.modify id Node.stop with members := r.members.filter (·.1 ≠ name) }

/-- Removes all members and stops their checks. -/
def dissolve (r : Roster) : Roster :=
  { r.modifyAll (r.members.map (·.2)) Node.stop with members := [] }

/-- Keeps a node that is no member. -/
def keep (r : Roster) (n : Node) : Roster × Nat :=
  ({ r with nodes := r.nodes ++ [n] }, r.nodes.length)

end Roster

end Muster
