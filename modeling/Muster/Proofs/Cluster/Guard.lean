import Muster.Cluster.Interface
import Muster.Proofs.Cluster.Aggregation
import Muster.Proofs.Http.Guard

/-! # The guards of the interfaces

The interfaces of the management node and of workers are guarded. To a request that does not present the secret nothing
is told of the cluster or of an engine, and it changes neither. -/

namespace Muster

open Http

theorem Cluster.guarded_serve (limit : Nat) :
    Guarded (fun c : Cluster => c.roster.policy.secret) routes id fun c r => c.serve limit r :=
  .of_dispatch fun c r response h => by
    unfold serve
    rw [h]
    rfl

theorem Worker.handle_of_refused {secret : String} {r : Request} {response : Response}
    (h : dispatch secret routes r = .error response) : handle secret r = .answered response := by
  unfold handle
  rw [h]

/-- A worker serves behind the guard of its secret, whether or not whoever asks can give up. -/
theorem Network.guarded_worker (secret : String) (engine : Nat) :
    Guarded (fun _ : Network => secret) Worker.routes id (fun net r => net.serveWorker secret engine r) ∧
    Guarded (fun _ : Network => secret) Worker.routes Flight.answered fun net r => net.atWorker secret engine r := by
  constructor
  · refine .of_dispatch fun net r response h => ?_
    unfold serveWorker
    rw [Worker.handle_of_refused h]
    rfl
  · refine .of_dispatch fun net r response h => ?_
    unfold atWorker
    rw [Worker.handle_of_refused h]

namespace Cluster

/-- Both interfaces are guarded, in every state and for every request. -/
theorem interfaces_guarded (limit : Nat) (secret : String) (engine : Nat) :
    Guarded (fun c : Cluster => c.roster.policy.secret) Cluster.routes id (fun c r => c.serve limit r) ∧
    Guarded (fun _ : Network => secret) Worker.routes id (fun net r => net.serveWorker secret engine r) ∧
    Guarded (fun _ : Network => secret) Worker.routes Flight.answered fun net r => net.atWorker secret engine r := by
  obtain ⟨hserved, harrived⟩ := Network.guarded_worker secret engine
  exact ⟨guarded_serve limit, hserved, harrived⟩

/-- Two requests without a secret are not answered alike: the path of a route tells the route's methods. -/
theorem denial_tells_methods :
    let c := start hastyPolicy blankSettings twoHosts
    let asked (path : String) : Request := ⟨"DELETE", path.toList, none, [], ""⟩
    (¬ (asked "/version").Presents c.roster.policy.secret ∧ ¬ (asked "/nowhere").Presents c.roster.policy.secret) ∧
    (c.serve 2000 (asked "/version")).2.2 = { unauthorized with allow := ["GET", "HEAD"] } ∧
    (c.serve 2000 (asked "/nowhere")).2.2 = unauthorized ∧
    (c.serve 2000 (asked "/version")).2.2 ≠ (c.serve 2000 (asked "/nowhere")).2.2 := by
  decide

end Cluster

end Muster
