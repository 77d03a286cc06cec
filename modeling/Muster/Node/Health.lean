import Muster.Error

/-! # Health

What the management node knows of a worker: the outcomes of its checks folded into the version it runs, the
text of the failure if the last check failed, and when it was last heard of. -/

namespace Muster

/-- The known state of a worker. -/
structure Health where
  /-- When the worker registered or was last heard of, on a clock in nanoseconds. -/
  lastSeen : Nat
  version : String
  /-- The text of the last check's failure. -/
  error : Option String
  deriving DecidableEq, Repr

namespace Health

/-- The state of a worker that registers. -/
def registered (now : Nat) (version : String) : Health := ⟨now, version, none⟩

/-- Takes the outcome of a check: the version, or why there is none. A failure leaves what was known. -/
def record (h : Health) (now : Nat) : Except ClusterError String → Health
  | .ok version => ⟨now, version, none⟩
  | .error e => { h with error := some e.text }

/-- The worker can be given commands: its last check did not fail and it runs the cluster's version. -/
def isReady (clusterVersion : String) (h : Health) : Bool :=
  h.error.isNone && h.version = clusterVersion

end Health

end Muster
