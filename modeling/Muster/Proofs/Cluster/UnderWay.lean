import Muster.Proofs.Cluster.Nodes
import Muster.Proofs.Node.UnderWay

/-! # Checks under way in a cluster

Whatever holds of every check when it begins holds of each that ends, whatever else happens to the cluster. -/

namespace Muster.Cluster

variable {c : Cluster} {n : Node} {id : Nat} {P : Pending → Prop}
variable (hbegun : ∀ (client : Client) (net : Network) (within : Nat), P (client.launch net within WorkerCall.ping).2.2)
include hbegun

theorem checking_becomes {e : Event} {n' : Node} (h : Becomes c id n e n') (hn : n.Checking P) : n'.Checking P := by
  cases h with
  | left h => exact hn.stop
  | @watched span net clock hnow h => exact (hn.watch hbegun net clock _).1
  | _ => exact hn

theorem checking_react (h : c.roster.Sound) (hchecking : ∀ n ∈ c.roster.nodes, n.Checking P) (e : Event) :
    ∀ n ∈ (c.react e).roster.nodes, n.Checking P := by
  intro n' hmem
  obtain ⟨id, hn'⟩ := List.mem_iff_getElem?.mp hmem
  rcases nodes_react_back c e hn' with ⟨n, hn⟩ | ⟨-, _, _, _, k, -, hk, rfl, -⟩
  · obtain ⟨m, hm, hbecomes⟩ := becomes_react h e hn
    obtain rfl : m = n' := Option.some.inj (hm.symm.trans hn')
    exact checking_becomes hbegun hbecomes (hchecking n (List.mem_of_getElem? hn))
  · exact (Node.Checking.of_made hk).start c.clock.now

theorem ending_happened (hchecking : ∀ n ∈ c.roster.nodes, n.Checking P) (id : Nat) (e : Event) :
    ∀ x ∈ c.happened id e, ∀ d, x.ending? = some d → P d.result := by
  cases e with
  | passed span =>
    cases hn : c.roster.nodes[id]? with
    | none =>
      unfold happened
      simp only [hn]
      exact fun x hx => (by cases hx)
    | some n =>
      rw [happened_passed span hn]
      exact ((hchecking n (List.mem_of_getElem? hn)).watch hbegun _ _ _).2
  | _ => exact fun x hx => (by cases hx)

/-- All checks that end while things happen to a cluster are of the kind that they were when they began. -/
theorem ending_run (h : c.roster.Sound) (hchecking : ∀ n ∈ c.roster.nodes, n.Checking P) (es : List Event) (id : Nat) :
    ∀ x ∈ c.happenedIn id es, ∀ d, x.ending? = some d → P d.result := by
  induction es generalizing c with
  | nil => exact fun x hx => (by cases hx)
  | cons e es ih =>
    intro x hx
    rcases List.mem_append.mp hx with hx | hx
    · exact ending_happened hbegun hchecking id e x hx
    · exact ih (sound_react h e) (checking_react hbegun h hchecking e) x hx

end Muster.Cluster
