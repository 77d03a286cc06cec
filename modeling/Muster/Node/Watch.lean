import Muster.Node.Basic
import Muster.Time.Clock

/-! # Watching nodes

What the checks of a node do as time goes by. `Node.watch` runs the events of the node's schedule up to a time:
checks that are due are sent, and the outcomes of those that end are recorded. -/

namespace Muster.Node

/-- An event of a node's schedule happens, at the time that the clock shows. -/
def happen (n : Node) (net : Network) (clock : Clock) : Schedule.Event Pending → Network × Clock × Node
  | .restarted => (net, clock, { n with schedule := n.schedule.restarted clock.now n.policy.interval.nanos })
  | .due =>
    let (net, after, pending) := n.client.launch net n.policy.timeout.nanos WorkerCall.ping
    let check := ⟨clock.now, clock.now + after, pending⟩
    (net, clock, { n with schedule := n.schedule.begin n.policy.interval.nanos check })
  | .checked c next =>
    let (net, x) := c.result.land net WorkerCall.ping
    (net, clock.take, { n.record clock.moment (n.outcome x) with schedule := n.schedule.checked next })
  | .ended c =>
    let (net, x) := c.result.land net WorkerCall.ping
    (net, clock.take, { n.record clock.moment (n.outcome x) with schedule := n.schedule.ended c })

/-- Lets the first `fuel` events of a node's schedule happen that are due up to the time `until_`. -/
def watchEvents (until_ : Nat) : Nat → Network × Clock × Node → Network × Clock × Node
  | 0, s => s
  | fuel + 1, (net, clock, n) =>
    match n.schedule.next? with
    | none => (net, clock, n)
    | some (t, e) =>
      if t ≤ until_ then watchEvents until_ fuel (n.happen net (clock.goTo t) e) else (net, clock, n)

/-- No more events than this are due between two times: each interval has at most one check, with a beginning
and an end. -/
def eventBound (n : Node) (span : Nat) : Nat :=
  2 * (span / n.policy.interval.nanos + 1) + n.schedule.ending.length + 4

/-- Lets happen what is due at a node up to the time `until_`. -/
def watch (n : Node) (net : Network) (clock : Clock) (until_ : Nat) : Network × Clock × Node :=
  watchEvents until_ (n.eventBound (until_ - clock.now)) (net, clock, n)

end Muster.Node
