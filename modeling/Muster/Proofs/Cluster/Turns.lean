import Muster.Proofs.Cluster.Independence
import Muster.Proofs.Cluster.Nodes
import Muster.Proofs.Node.Outcomes

/-! # Health is told by a node's own checks

Nodes are kept from their enrollment on, also when others have taken their places among the members. Whoever still holds
one may relay commands through it, start and stop its checks, and its last check may come to an outcome late. What is
known of a node is what the outcomes of its own checks tell, whatever else happens meanwhile. -/

namespace Muster.Cluster

/-- What can happen to the nodes of a cluster. -/
inductive Turn
  | event (e : Event)
  /-- A command is relayed through a node, a member's or not. -/
  | relayed (place limit : Nat) (o : Operation)
  | started (place : Nat)
  | stopped (place : Nat)

/-- The cluster after a turn. -/
def turn (c : Cluster) : Turn → Cluster
  | .event e => c.react e
  | .relayed place limit o =>
    match c.roster.nodes[place]? with
    | none => c
    | some n => { c with net := (o.callNode limit n c.net).1 }
  | .started place => { c with roster := c.roster.modify place (·.start c.clock.now) }
  | .stopped place => { c with roster := c.roster.modify place Node.stop }

/-- The cluster after some turns. -/
def turns (c : Cluster) (ts : List Turn) : Cluster := ts.foldl turn c

/-- The outcomes of a node's own checks at a turn. -/
def outcomesAt (c : Cluster) (id : Nat) : Turn → List Health.Outcome
  | .event (.checked place moment x) => if place = id then [⟨moment, x⟩] else []
  | .event (.passed span) => (Node.findings (c.happened id (.passed span))).map Node.Finding.told
  | _ => []

/-- The outcomes of a node's own checks during some turns. -/
def outcomesIn (c : Cluster) (id : Nat) : List Turn → List Health.Outcome
  | [] => []
  | t :: ts => c.outcomesAt id t ++ (c.turn t).outcomesIn id ts

variable {c : Cluster} {n : Node} {id : Nat}

theorem outcomesIn_append (c : Cluster) (id : Nat) (ts ts' : List Turn) :
    c.outcomesIn id (ts ++ ts') = c.outcomesIn id ts ++ (c.turns ts).outcomesIn id ts' := by
  induction ts generalizing c with
  | nil => rfl
  | cons t ts ih =>
    show c.outcomesAt id t ++ (c.turn t).outcomesIn id (ts ++ ts') = c.outcomesAt id t ++ (c.turn t).outcomesIn id ts ++ _
    rw [ih, List.append_assoc]
    rfl

/-! ### Turns -/

/-- Whoever joins or leaves stops nodes, and does nothing else to those that there are. -/
theorem stopped_change (c : Cluster) (x : Change) (hn : c.roster.nodes[id]? = some n) :
    ∃ n', (c.change x).1.roster.nodes[id]? = some n' ∧ (n' = n ∨ n' = n.stop) := by
  have decided {p : Prop} [Decidable p] {nodes : List Node} (h : nodes[id]? = some (if p then n.stop else n)) :
      ∃ n', nodes[id]? = some n' ∧ (n' = n ∨ n' = n.stop) := by
    refine ⟨_, h, ?_⟩
    split
    · exact Or.inr rfl
    · exact Or.inl rfl
  cases x with
  | enroll name url version =>
    show ∃ n', (c.enroll name url version).1.roster.nodes[id]? = some n' ∧ _
    rcases c.enroll_cases name url version with ⟨-, e, he⟩ | ⟨-, k, -, he⟩
    · rw [he]
      exact ⟨n, hn, Or.inl rfl⟩
    · rw [he]
      exact decided (Roster.nodes_seat_old c.roster c.clock.now k hn)
  | remove name =>
    show ∃ n', (c.remove name).1.roster.nodes[id]? = some n' ∧ _
    rcases c.remove_cases name with ⟨-, he⟩ | ⟨-, t, ht, he⟩
    · rw [he]
      exact ⟨n, hn, Or.inl rfl⟩
    · rw [he]
      obtain ⟨place, -, rfl⟩ := Roster.remove_eq_ok ht
      refine decided (p := place = id) ?_
      show (c.roster.nodes.modify place Node.stop)[id]? = _
      rw [List.getElem?_modify, hn]
      rfl
  | dissolve => exact decided (Roster.nodes_stopAll c.roster.places hn)

/-- A turn leaves a node the same node, and what is known of it then is what was known before and what its own checks came
to. -/
theorem nodes_turn (c : Cluster) (t : Turn) (hn : c.roster.nodes[id]? = some n) :
    ∃ n', (c.turn t).roster.nodes[id]? = some n' ∧ n'.identity = n.identity ∧
      n'.health = (c.outcomesAt id t).foldl Health.take n.health := by
  have modified (place : Nat) (f : Node → Node) :
      (c.roster.nodes.modify place f)[id]? = some (if place = id then f n else n) := by
    rw [List.getElem?_modify, hn]
    rfl
  cases t with
  | relayed place limit o =>
    refine ⟨n, ?_, rfl, rfl⟩
    unfold turn
    dsimp only
    split <;> exact hn
  | started place =>
    refine ⟨_, modified place (·.start c.clock.now), ?_⟩
    split <;> exact ⟨rfl, rfl⟩
  | stopped place =>
    refine ⟨_, modified place Node.stop, ?_⟩
    split <;> exact ⟨rfl, rfl⟩
  | event e =>
    cases e with
    | changed x =>
      obtain ⟨n', hn', rfl | rfl⟩ := c.stopped_change x hn
      · exact ⟨_, hn', rfl, rfl⟩
      · exact ⟨_, hn', rfl, rfl⟩
    | operated o limit => exact ⟨n, hn, rfl, rfl⟩
    | rewired net => exact ⟨n, hn, rfl, rfl⟩
    | checked place moment x =>
      refine ⟨_, modified place (·.record moment x), ?_⟩
      show _ ∧ _ = (if place = id then [(⟨moment, x⟩ : Health.Outcome)] else []).foldl Health.take n.health
      split <;> exact ⟨rfl, rfl⟩
    | passed span =>
      refine ⟨_, nodes_watchAll (c.clock.now + span) c.net c.clock hn, congrArg Prod.fst (Node.core_watch ..), ?_⟩
      show _ = ((Node.findings (c.happened id (.passed span))).map Node.Finding.told).foldl Health.take n.health
      rw [Node.foldl_told, happened_passed span hn]
      exact n.health_watch _ _ _

theorem nodes_turns (c : Cluster) (ts : List Turn) (hn : c.roster.nodes[id]? = some n) :
    ∃ n', (c.turns ts).roster.nodes[id]? = some n' ∧ n'.identity = n.identity ∧
      n'.health = (c.outcomesIn id ts).foldl Health.take n.health := by
  induction ts generalizing c n with
  | nil => exact ⟨n, hn, rfl, rfl⟩
  | cons t ts ih =>
    obtain ⟨k, hk, hidentity, hhealth⟩ := c.nodes_turn t hn
    obtain ⟨n', hn', hidentity', hhealth'⟩ := ih (c.turn t) hk
    refine ⟨n', hn', hidentity'.trans hidentity, ?_⟩
    show _ = (c.outcomesAt id t ++ (c.turn t).outcomesIn id ts).foldl Health.take n.health
    rw [hhealth', hhealth, List.foldl_append]

/-- Whatever happens to the nodes of a cluster, what is known of each is what the outcomes of its own checks tell since it
was made: the version and the moment of the last success, or else of its registration, and the text of the last outcome
if that is a failure. A node is ready, and is listed as ready, if there is no such text and the version is the cluster's.
Where the moments of the outcomes do not go back, neither does the time at which the worker was last seen. A turn at
which none of its own checks comes to an outcome changes nothing of this, be it a command relayed through the node or the
check of another one of its name and address. -/
theorem health_folds (c : Cluster) {name url version : String} {policy : Policy} {registered : Nat} {k n₀ : Node}
    (hk : Node.make name url version policy registered = .ok k) (hnew : n₀ = k ∨ ∃ now, n₀ = k.start now)
    (hn₀ : c.roster.nodes[id]? = some n₀) (ts : List Turn) :
    ∃ n, (c.turns ts).roster.nodes[id]? = some n ∧ n.identity = k.identity ∧
      Health.After registered version (c.outcomesIn id ts) n.health ∧
      (n.isReady = true ↔ n.health.error = none ∧ n.health.version = policy.clusterVersion) ∧
      (n.row.ready = true ↔ n.health.error = none ∧ n.health.version = policy.clusterVersion) ∧
      ((registered :: (c.outcomesIn id ts).map (·.moment)).Pairwise (· ≤ ·) → ∀ ts₁ ts₂, ts = ts₁ ++ ts₂ →
        ∃ n₁, (c.turns ts₁).roster.nodes[id]? = some n₁ ∧ n₁.health.lastSeen ≤ n.health.lastSeen) ∧
      ∀ t, (c.turns ts).outcomesAt id t = [] →
        ∃ n', ((c.turns ts).turn t).roster.nodes[id]? = some n' ∧ n'.health = n.health ∧ n'.row = n.row := by
  obtain ⟨client, -, hmade⟩ := make_node hk
  have hidentity₀ : n₀.identity = k.identity := by
    rcases hnew with rfl | ⟨now, rfl⟩ <;> rfl
  have hhealth₀ : n₀.health = .registered registered version := by
    rcases hnew with rfl | ⟨now, rfl⟩ <;> rw [hmade]
    rfl
  obtain ⟨n, hn, hidentity, hhealth⟩ := c.nodes_turns ts hn₀
  rw [hhealth₀] at hhealth
  have hpolicy : n.policy = policy := by
    rw [(Node.eq_of_identity (hidentity.trans hidentity₀)).2.2.2, hmade]
  have hready : n.isReady = true ↔ n.health.error = none ∧ n.health.version = policy.clusterVersion := by
    rw [← hpolicy]
    exact Health.isReady_iff
  refine ⟨n, hn, hidentity.trans hidentity₀, hhealth ▸ Health.after_foldl registered version _, hready, hready, ?_, ?_⟩
  · rintro hmoments ts₁ ts₂ rfl
    obtain ⟨n₁, hn₁, -, hhealth₁⟩ := c.nodes_turns ts₁ hn₀
    refine ⟨n₁, hn₁, ?_⟩
    rw [outcomesIn_append] at hhealth hmoments
    rw [hhealth₁, hhealth₀, hhealth]
    exact Health.lastSeen_le hmoments
  · intro t hnone
    obtain ⟨n', hn', hidentity', hhealth'⟩ := (c.turns ts).nodes_turn t hn
    rw [hnone] at hhealth'
    exact ⟨n', hn', hhealth', Node.row_congr hidentity' hhealth'⟩

/-- A node gives way to one of its own name and address. Then a command is relayed through it, the other one is checked,
and its own last check fails late. -/
def lateTurns : List Turn :=
  [.event (.checked 0 3 (.ok "v1")), .event (.changed (.enroll "one" "http://[::1]:81/" "v2")),
    .event (.checked 1 4 (.ok "v3")), .relayed 0 2000 (.status "sales"), .event (.checked 0 5 (.error (.worker "gone")))]

/-- A node that gave way long ago is known by its own checks, late ones too. -/
theorem health_folds_late :
    let c := (start hastyPolicy blankSettings twoHosts).run [.changed (.enroll "one" "http://[::1]:81/" "v1")]
    (c.turns lateTurns).roster.members = [("one", 1)] ∧ ∃ n, (c.turns lateTurns).roster.nodes[0]? = some n ∧
      n.health = ⟨3, "v1", some "gone"⟩ ∧ n.row.ready = false ∧
      ∃ n₁, (c.turns (lateTurns.take 4)).roster.nodes[0]? = some n₁ ∧ n₁.health.lastSeen ≤ n.health.lastSeen := by
  intro c
  have hmembers : (c.turns lateTurns).roster.members = [("one", 1)] := by decide +kernel
  obtain ⟨k, hk, hn⟩ : ∃ k, Node.make "one" "http://[::1]:81/" "v1" hastyPolicy 0 = .ok k ∧
      c.roster.nodes[0]? = some (k.start 0) := by
    cases hk : Node.make "one" "http://[::1]:81/" "v1" hastyPolicy 0 with
    | error e =>
      have hmade : (Node.make "one" "http://[::1]:81/" "v1" hastyPolicy 0).isOk = true := by decide +kernel
      rw [hk] at hmade
      cases hmade
    | ok k =>
      have hplace : c.roster.nodes[0]? =
          (Node.make "one" "http://[::1]:81/" "v1" hastyPolicy 0).toOption.map (Node.start · 0) := by decide +kernel
      rw [hk] at hplace
      exact ⟨k, rfl, hplace⟩
  have houtcomes : c.outcomesIn 0 lateTurns = [⟨3, .ok "v1"⟩, ⟨5, .error (.worker "gone")⟩] := rfl
  obtain ⟨n, hn', -, hafter, -, hready, hseen, -⟩ := health_folds c hk (Or.inr ⟨0, rfl⟩) hn lateTurns
  rw [houtcomes] at hafter hseen
  obtain ⟨hversion, hlast, herror⟩ := hafter
  refine ⟨hmembers, n, hn', ?_, ?_, hseen (by decide) _ _ (List.take_append_drop 4 lateTurns).symm⟩
  · cases hhealth : n.health with
    | mk lastSeen version error =>
      rw [hhealth] at hversion hlast herror
      exact congr (congr (congrArg Health.mk hlast) hversion) herror
  · refine Bool.eq_false_iff.mpr fun h => ?_
    have hnone := (hready.mp h).1
    rw [herror] at hnone
    cases hnone

end Muster.Cluster
