import Muster.Proofs.Cluster.Freshness
import Muster.Proofs.Cluster.UnderWay
import Muster.Proofs.Node.Candor

/-! # The member list hides no failure

A member whose last check failed is listed with the text of the failure, which is never empty: whoever reads the member
list sees which members are ready from their texts and versions. -/

namespace Muster.Cluster

variable {c : Cluster} {n : Node} {id : Nat}

/-- Every node that was ever made shows its failures. -/
def Candid (c : Cluster) : Prop := ∀ n ∈ c.roster.nodes, n.Candid

/-- What becomes of a candid node at an event that is no made-up outcome of a check. -/
theorem candid_becomes {e : Event} {n' : Node} (h : Becomes c id n e n')
    (hreal : ∀ place moment x, e ≠ .checked place moment x) (hn : n.Candid) : n'.Candid := by
  cases h with
  | left h => exact hn.stop
  | stayed h => exact hn
  | operated => exact hn
  | recorded => exact absurd rfl (hreal _ _ _)
  | spared h => exact absurd rfl (hreal _ _ _)
  | @watched span net clock hnow h => exact (hn.watch net clock _).1
  | rewired => exact hn

theorem candid_react (h : c.roster.Sound) (hcandid : c.Candid) {e : Event}
    (hreal : ∀ place moment x, e ≠ .checked place moment x) : (c.react e).Candid := by
  intro n' hmem
  obtain ⟨id, hn'⟩ := List.mem_iff_getElem?.mp hmem
  rcases nodes_react_back c e hn' with ⟨n, hn⟩ | ⟨-, _, _, _, k, -, hk, rfl, -⟩
  · obtain ⟨m, hm, hbecomes⟩ := becomes_react h e hn
    obtain rfl : m = n' := Option.some.inj (hm.symm.trans hn')
    exact candid_becomes hbecomes hreal (hcandid n (List.mem_of_getElem? hn))
  · exact (Node.candid_make hk).start c.clock.now

/-- A cluster stays candid, and tells of every check that fails with a text. -/
theorem candid_run (h : c.roster.Sound) (hcandid : c.Candid) {es : List Event}
    (hreal : ∀ place moment x, Event.checked place moment x ∉ es) :
    (c.run es).Candid ∧ ∀ id, ∀ f ∈ Node.findings (c.happenedIn id es), f.told.Telling := by
  constructor
  · induction es generalizing c with
    | nil => exact hcandid
    | cons e es ih =>
      have hhere : ∀ place moment x, e ≠ .checked place moment x :=
        fun place moment x he => hreal place moment x (he ▸ List.mem_cons_self)
      exact ih (sound_react h e) (candid_react h hcandid hhere)
        fun place moment x hx => hreal place moment x (List.mem_cons_of_mem e hx)
  · intro id f hf
    obtain ⟨x, hx, hfound⟩ := List.mem_filterMap.mp hf
    have hchecking : ∀ n ∈ c.roster.nodes, n.Checking Pending.Telling := fun n hn => (hcandid n hn).checking
    exact Node.Happening.telling_finding (ending_run Client.telling_launch h hchecking es id x hx) hfound

/-- The member list hides no failure: whatever the workers answer to checks, and whether they are there at all, a member
is listed as ready if and only if its text is empty and its version is the cluster's. For every check that fails does so
with a text that is not empty, and no node that was ever made is known to have failed without one. -/
theorem rows_candid (policy : Policy) (common : CommonSettings) (net : Network) (es : List Event)
    (hreal : ∀ place moment x, Event.checked place moment x ∉ es) :
    (∀ row ∈ ((start policy common net).run es).roster.rows,
      row.ready = true ↔ row.error = "" ∧ row.version = policy.clusterVersion) ∧
    (∀ id, ∀ f ∈ Node.findings ((start policy common net).happenedIn id es),
      ∀ e, f.outcome = .error e → e.text ≠ "") ∧
    ∀ n ∈ ((start policy common net).run es).roster.nodes, n.health.error ≠ some "" := by
  have hempty : (start policy common net).Candid := fun n hn => (by cases hn)
  have sound := sound_run policy common net es
  obtain ⟨hcandid, htold⟩ := candid_run (Roster.empty_sound policy common) hempty hreal
  refine ⟨fun row hrow => ?_, htold, fun n hn => (hcandid n hn).error⟩
  obtain ⟨n, hn, rfl⟩ := List.mem_map.mp hrow
  have hmade := Roster.mem_nodes_of_mem_memberNodes hn
  have hpolicy : n.policy = policy := (sound.made n hmade).1.trans (policy_run policy common net es)
  rw [← hpolicy]
  exact (hcandid n hmade).row_ready

/-- Two hosts, of which the first answers everything with a blank failure and the second tells its version. -/
def blankHosts : Network where
  connected := true
  services := [("[::1]:81", .stub (.text 503 " ") 5), ("[::1]:82", .stub (.json (VersionNotice.encode ⟨"v1"⟩)) 5)]
  engines := []
  engineOf := []
  arrived := []

/-- Three workers are enrolled, of which the last has no host, and are checked once. -/
def blankWorkers : List Event :=
  [.changed (.enroll "one" "http://[::1]:81" "v1"), .changed (.enroll "two" "http://[::1]:82" "v1"),
    .changed (.enroll "three" "http://[::1]:83" "v1"), .passed 1500]

/-- A blank failure is listed with its status, and a host that is not there with the address that was asked. -/
theorem rows_candid_blank :
    let rows := ((start hastyPolicy blankSettings blankHosts).run blankWorkers).roster.rows
    rows.map (fun row => (row.error, row.ready)) = [("503 Service Unavailable", false), ("", true),
      ("error sending request for url (http://[::1]:83/cluster/ping)", false)] ∧
    ∀ row ∈ rows, row.ready = true ↔ row.error = "" ∧ row.version = "v1" := by
  intro rows
  have hrows : rows.map (fun row => (row.error, row.ready)) = [("503 Service Unavailable", false), ("", true),
      ("error sending request for url (http://[::1]:83/cluster/ping)", false)] := by decide +kernel
  refine ⟨hrows, (rows_candid hastyPolicy blankSettings blankHosts blankWorkers fun place moment x hx => ?_).1⟩
  simp [blankWorkers] at hx

end Muster.Cluster
