import Muster.Proofs.Cluster.Aggregation
import Muster.Proofs.Node.Answer
import Muster.Proofs.Node.Effect

/-! # What an operation does to the engines

An operation on all members sends one request to each member that is ready, and none for another one. If each member
is served by a worker with an engine of its own, no engine gets more than one command of it, and the engine of each
member that is not reported as failed has carried one out. -/

namespace Muster

open Worker

variable {α : Type} {kind : String}

/-- A way to call nodes does to their engines what calls of a kind do. -/
structure Acts (kind : String) (call : Node → Network → Network × Reply α) : Prop where
  served : ∀ {n : Node} {a : Network} {i : Nat} {e : Engine},
    a.serving n.client.base = some i → a.engines[i]? = some e → ∃ e',
      a.Touched i e' (if n.isReady then [n.client.base.server] else []) (call n a).1 ∧
      (n.isReady = false → e' = e) ∧ e.AtMostOne kind e' ∧
      ∀ x, (call n a).2.outcome = .ok x → e.CarriedOut kind e'
  unreached : ∀ {n : Node} {a : Network}, a.reaches n.client.base = false →
    (call n a).1 = a ∧ ∀ x, (call n a).2.outcome ≠ .ok x

theorem acts_relay {call : Call α} (h : call.Commands kind) (limit : Nat) :
    Acts kind fun n net => n.relay net limit call where
  served := fun hserving he => Node.relay_effect h hserving he limit
  unreached := fun hreaches => Node.relay_unreached hreaches limit call

theorem acts_storages (limit : Nat) : Acts "storages" fun n net => n.storages net limit where
  served := by
    intro n a i e hserving he
    obtain ⟨e', htouched, hidle, hone, hdone⟩ := Node.relay_effect WorkerCall.storages_commands hserving he limit
    refine ⟨e', htouched, hidle, hone, fun x hx => ?_⟩
    obtain ⟨y, hy, -⟩ := map_eq_ok hx
    exact hdone y hy
  unreached := by
    intro n a hreaches
    obtain ⟨hsame, hnone⟩ := Node.relay_unreached hreaches limit WorkerCall.storages
    refine ⟨hsame, fun x hx => ?_⟩
    obtain ⟨y, hy, -⟩ := map_eq_ok hx
    exact hnone y hy

/-! ### Calls to each node -/

/-- Nodes have engines of their own: whoever is at the host of one serves it as a worker, and no two are served with
one engine. -/
structure Network.Staffed (net : Network) (nodes : List Node) : Prop where
  served : ∀ n ∈ nodes, net.reaches n.client.base = true → ∃ i ∈ net.serving n.client.base, net.engines[i]?.isSome
  own : (nodes.filterMap fun n => net.serving n.client.base).Nodup

/-- What calls to nodes have made of a network: `b` is what became of `a`. -/
structure Network.Reached (kind : String) (a : Network) (calls : List (Node × Reply α)) (b : Network) : Prop where
  /-- A request has arrived for each node that is ready, in order, and nothing else has. -/
  sent : ∃ sent, b.arrived = a.arrived ++ sent ∧ sent.map (·.server) =
    ((calls.map (·.1)).filter fun n => n.isReady && a.reaches n.client.base).map fun n => n.client.base.server
  /-- Only engines of the nodes have changed. -/
  others : ∀ j, (∀ x ∈ calls, a.serving x.1.client.base ≠ some j) → b.engines[j]? = a.engines[j]?
  /-- Each node's engine got one command at most, and carried it out if the call succeeded. -/
  each : ∀ x ∈ calls, ∀ i, a.serving x.1.client.base = some i →
    ∃ e e', a.engines[i]? = some e ∧ b.engines[i]? = some e' ∧ (x.1.isReady = false → e' = e) ∧
      e.AtMostOne kind e' ∧ ∀ y, x.2.outcome = .ok y → e.CarriedOut kind e'
  /-- No call has succeeded that did not reach a host. -/
  lost : ∀ x ∈ calls, a.reaches x.1.client.base = false → ∀ y, x.2.outcome ≠ .ok y

namespace Network

variable {call : Node → Network → Network × Reply α} {n : Node} {nodes : List Node} {a b : Network} {i : Nat}

theorem Staffed.tail (h : a.Staffed (n :: nodes)) : a.Staffed nodes where
  served := fun k hk => h.served k (List.mem_cons_of_mem n hk)
  own := h.own.sublist ((List.sublist_cons_self n nodes).filterMap _)

/-- A node's engine is no other node's. -/
theorem Staffed.head_ne (h : a.Staffed (n :: nodes)) (hi : a.serving n.client.base = some i) {k : Node}
    (hk : k ∈ nodes) : a.serving k.client.base ≠ some i := by
  have hown := h.own
  rw [List.filterMap_cons, hi] at hown
  exact fun heq => (List.nodup_cons.mp hown).1 (List.mem_filterMap.mpr ⟨k, hk, heq⟩)

theorem Staffed.eq_of_serving (h : a.Staffed nodes) {k m : Node} (hk : k ∈ nodes) (hm : m ∈ nodes)
    (hki : a.serving k.client.base = some i) (hmi : a.serving m.client.base = some i) : k = m := by
  induction nodes with
  | nil => cases hk
  | cons n nodes ih =>
    rcases List.mem_cons.mp hk with rfl | htail
    · rcases List.mem_cons.mp hm with rfl | htail
      · rfl
      · exact absurd hmi (h.head_ne hki htail)
    · rcases List.mem_cons.mp hm with rfl | htail'
      · exact absurd hki (h.head_ne hmi htail)
      · exact ih h.tail htail htail'

/-- Of the nodes at one server of which one is there, there is but one. -/
theorem Staffed.eq_of_server (h : a.Staffed nodes) {k m : Node} (hk : k ∈ nodes) (hm : m ∈ nodes)
    (hreaches : a.reaches k.client.base = true) (hserver : k.client.base.server = m.client.base.server) : k = m := by
  have hreaches' : a.reaches m.client.base = true := by
    unfold reaches at hreaches ⊢
    rwa [← hserver]
  obtain ⟨i, hi, -⟩ := h.served k hk hreaches
  obtain ⟨j, hj, -⟩ := h.served m hm hreaches'
  obtain rfl := serving_of_server hi hj hserver
  exact h.eq_of_serving hk hm hi hj

/-- Among nodes that can be reached each is alone at its server. -/
theorem Staffed.count_servers (h : a.Staffed nodes) (hnodup : nodes.Nodup) {p : Node → Bool}
    (hp : ∀ k, p k = true → a.reaches k.client.base = true) (hn : n ∈ nodes) :
    ((nodes.filter p).map fun k => k.client.base.server).count n.client.base.server = if p n then 1 else 0 := by
  have hone : ((nodes.filter p).map fun k => k.client.base.server).Nodup := by
    refine (hnodup.filter _).map_on fun k hk m hm hserver => ?_
    obtain ⟨hk, hpk⟩ := List.mem_filter.mp hk
    exact h.eq_of_server hk (List.mem_filter.mp hm).1 (hp k hpk) hserver
  have hmem : n.client.base.server ∈ (nodes.filter p).map (fun k => k.client.base.server) ↔ p n = true := by
    constructor
    · intro hserver
      obtain ⟨k, hk, hserver⟩ := List.mem_map.mp hserver
      obtain ⟨hk, hpk⟩ := List.mem_filter.mp hk
      obtain rfl := h.eq_of_server hk hn (hp k hpk) hserver
      exact hpk
    · exact fun hpn => List.mem_map.mpr ⟨n, List.mem_filter.mpr ⟨hn, hpn⟩, rfl⟩
  rw [hone.count]
  exact if_congr hmem rfl rfl

/-- What happens at one engine leaves nodes their engines. -/
theorem Touched.staffed {e' : Engine} {servers : List String} (h : a.Touched i e' servers b)
    (hnodes : a.Staffed nodes) : b.Staffed nodes := by
  have hserving : ∀ base, b.serving base = a.serving base := serving_congr h.connected h.services
  constructor
  · intro n hn hreaches
    rw [reaches_congr h.connected h.services] at hreaches
    obtain ⟨j, hj, hsome⟩ := hnodes.served n hn hreaches
    refine ⟨j, (hserving _).trans hj, ?_⟩
    by_cases hji : j = i
    · rw [hji, h.changed]
      rfl
    · rwa [h.others j hji]
  · simpa only [hserving] using hnodes.own

/-- A call to a node whose host cannot be reached comes before others. -/
theorem Reached.cons_lost {reply : Reply α} {calls : List (Node × Reply α)} (rest : a.Reached kind calls b)
    (hreaches : a.reaches n.client.base = false) (hnone : ∀ x, reply.outcome ≠ .ok x) :
    a.Reached kind ((n, reply) :: calls) b := by
  refine ⟨?_, fun j hj => ?_, fun x hx i hi => ?_, fun x hx => ?_⟩
  · obtain ⟨sent, hsent, hservers⟩ := rest.sent
    refine ⟨sent, hsent, ?_⟩
    rw [hservers, List.map_cons, List.filter_cons, hreaches, Bool.and_false]
    rfl
  · exact rest.others j fun x hx => hj x (List.mem_cons_of_mem _ hx)
  · rcases List.mem_cons.mp hx with rfl | hx
    · rw [serving_of_not_reaches hreaches] at hi
      cases hi
    · exact rest.each x hx i hi
  · rcases List.mem_cons.mp hx with rfl | hx
    · exact fun _ => hnone
    · exact rest.lost x hx

/-- A call to a node that is served comes before others, whose engines are others. -/
theorem Reached.cons_served {c : Network} {reply : Reply α} {calls : List (Node × Reply α)} {e e' : Engine}
    (rest : b.Reached kind calls c) (hi : a.serving n.client.base = some i) (he : a.engines[i]? = some e)
    (htouched : a.Touched i e' (if n.isReady then [n.client.base.server] else []) b)
    (hidle : n.isReady = false → e' = e) (hone : e.AtMostOne kind e')
    (hdone : ∀ y, reply.outcome = .ok y → e.CarriedOut kind e')
    (hother : ∀ x ∈ calls, a.serving x.1.client.base ≠ some i) : a.Reached kind ((n, reply) :: calls) c := by
  have hserving : ∀ base, b.serving base = a.serving base := serving_congr htouched.connected htouched.services
  have hreach : ∀ base, b.reaches base = a.reaches base := reaches_congr htouched.connected htouched.services
  have hreaches := reaches_of_serving hi
  refine ⟨?_, fun j hj => ?_, fun x hx j hj => ?_, fun x hx => ?_⟩
  · obtain ⟨s₁, hs₁, hservers₁⟩ := htouched.arrived
    obtain ⟨s₂, hs₂, hservers₂⟩ := rest.sent
    refine ⟨s₁ ++ s₂, by rw [hs₂, hs₁, List.append_assoc], ?_⟩
    simp only [hreach] at hservers₂
    rw [List.map_append, hservers₁, hservers₂, List.map_cons, List.filter_cons, hreaches, Bool.and_true]
    cases n.isReady <;> rfl
  · have hne : j ≠ i := fun h => hj (n, reply) List.mem_cons_self (h ▸ hi)
    rw [rest.others j fun x hx => by rw [hserving]; exact hj x (List.mem_cons_of_mem _ hx)]
    exact htouched.others j hne
  · rcases List.mem_cons.mp hx with rfl | hx
    · obtain rfl : i = j := Option.some.inj (hi.symm.trans hj)
      have hkept : c.engines[i]? = b.engines[i]? :=
        rest.others i fun x hx => by rw [hserving]; exact hother x hx
      exact ⟨e, e', he, hkept.trans htouched.changed, hidle, hone, hdone⟩
    · obtain ⟨f, f', hf, hf', hrest⟩ := rest.each x hx j ((hserving _).trans hj)
      have hne : j ≠ i := fun h => hother x hx (h ▸ hj)
      exact ⟨f, f', (htouched.others j hne).symm.trans hf, hf', hrest⟩
  · rcases List.mem_cons.mp hx with rfl | hx
    · intro hlost
      rw [hreaches] at hlost
      cases hlost
    · exact fun hlost => rest.lost x hx ((hreach _).trans hlost)

/-- Nodes with engines of their own are reached one after another, each as if it were alone. -/
theorem reached_callEach (hcall : Acts kind call) (h : a.Staffed nodes) :
    a.Reached kind (nodes.zip (callEach call a nodes).2) (callEach call a nodes).1 := by
  induction nodes generalizing a with
  | nil =>
    refine ⟨⟨[], (List.append_nil _).symm, rfl⟩, fun _ _ => rfl, fun _ hx => ?_, fun _ hx => ?_⟩
    · cases hx
    · cases hx
  | cons n nodes ih =>
    show a.Reached kind ((n, (call n a).2) :: nodes.zip (callEach call (call n a).1 nodes).2)
      (callEach call (call n a).1 nodes).1
    cases hreaches : a.reaches n.client.base with
    | false =>
      obtain ⟨hsame, hnone⟩ := hcall.unreached hreaches
      rw [hsame]
      exact (ih h.tail).cons_lost hreaches hnone
    | true =>
      obtain ⟨i, hi, hsome⟩ := h.served n List.mem_cons_self hreaches
      obtain ⟨e, he⟩ := Option.isSome_iff_exists.mp hsome
      obtain ⟨e', htouched, hidle, hone, hdone⟩ := hcall.served hi he
      -- The other nodes have other engines, which the call to this one has left alone.
      exact (ih (htouched.staffed h.tail)).cons_served hi he htouched hidle hone hdone
        fun x hx => h.head_ne hi (List.of_mem_zip hx).1

end Network

/-! ### Members -/

theorem Mutation.call_commands {m : Mutation} {call : Call Unit} (h : m.call = .ok call) : call.Commands m.kind := by
  cases m with
  | load name =>
    obtain rfl := Except.ok.inj h
    exact WorkerCall.load_commands name
  | unload name =>
    obtain rfl := Except.ok.inj h
    exact WorkerCall.unload_commands name
  | unregisterStorage name =>
    obtain rfl := Except.ok.inj h
    exact WorkerCall.unregisterStorage_commands name
  | registerStorage c =>
    obtain ⟨registration, -, rfl⟩ := map_eq_ok h
    exact WorkerCall.registerStorage_commands registration

/-- An operation calls a node: it is given to members, and the node is ready and can be reached. -/
def Operation.calls (o : Operation) (net : Network) (n : Node) : Bool :=
  o.isSent && (n.isReady && net.reaches n.client.base)

/-- What has become of a network in which some of the members of a roster were called. -/
structure Roster.ActedOnce (r : Roster) (kind : String) (called : Node → Bool) (a b : Network) : Prop where
  /-- A request has arrived for each member that was called, in order, and nothing else has. -/
  sent : ∃ sent, b.arrived = a.arrived ++ sent ∧
    sent.map (·.server) = (r.memberNodes.filter called).map (fun n => n.client.base.server) ∧
    ∀ n ∈ r.memberNodes, (sent.map (·.server)).count n.client.base.server = if called n then 1 else 0
  /-- Each engine got one command of the kind at most, and only one of a member that was called got any. -/
  engines : ∀ i e, a.engines[i]? = some e → ∃ e', b.engines[i]? = some e' ∧ e.AtMostOne kind e' ∧
    ((∀ n ∈ r.memberNodes, called n = true → a.serving n.client.base ≠ some i) → e' = e)

/-- The engine of a node has carried out one command of a kind. -/
def Node.Done (n : Node) (kind : String) (a b : Network) : Prop :=
  ∃ i e e', a.serving n.client.base = some i ∧ a.engines[i]? = some e ∧ b.engines[i]? = some e' ∧ e.CarriedOut kind e'

namespace Roster

variable {r : Roster} {net : Network} {call : Node → Network → Network × Reply α} {n : Node} {action name : String}

theorem ActedOnce.refl (r : Roster) (kind : String) (a : Network) : r.ActedOnce kind (fun _ => false) a a where
  sent := ⟨[], (List.append_nil _).symm, by rw [List.filter_false]; rfl, fun _ _ => rfl⟩
  engines := fun _ e he => ⟨e, he, .refl kind e, fun _ => rfl⟩

theorem reached_fanOut (hcall : Acts kind call) (h : net.Staffed r.memberNodes) :
    net.Reached kind (r.memberNodes.zip (callEach call net r.memberNodes).2) (r.fanOut net call).1 :=
  Network.reached_callEach hcall h

/-- A call to all members is made to each that is ready and can be reached, once. -/
theorem acted_fanOut (hcall : Acts kind call) (h : net.Staffed r.memberNodes) (hnodup : r.memberNodes.Nodup) :
    r.ActedOnce kind (fun n => n.isReady && net.reaches n.client.base) net (r.fanOut net call).1 := by
  have reached := reached_fanOut hcall h
  have hlength : r.memberNodes.length ≤ (callEach call net r.memberNodes).2.length := (length_callEach ..).ge
  constructor
  · obtain ⟨sent, hsent, hservers⟩ := reached.sent
    rw [List.map_fst_zip hlength] at hservers
    refine ⟨sent, hsent, hservers, fun n hn => ?_⟩
    rw [hservers]
    exact h.count_servers hnodup (fun k hk => (Bool.and_eq_true_iff.mp hk).2) hn
  · intro i e he
    by_cases hserved : ∃ x ∈ r.memberNodes.zip (callEach call net r.memberNodes).2, net.serving x.1.client.base = some i
    · obtain ⟨x, hx, hi⟩ := hserved
      obtain ⟨e₀, e', he₀, he', hidle, hone, -⟩ := reached.each x hx i hi
      obtain rfl : e₀ = e := Option.some.inj (he₀.symm.trans he)
      refine ⟨e', he', hone, fun hnone => hidle ?_⟩
      by_contra hready
      refine hnone x.1 (List.of_mem_zip hx).1 ?_ hi
      rw [Network.reaches_of_serving hi, Bool.and_true]
      exact Bool.not_eq_false _ ▸ hready
    · exact ⟨e, (reached.others i fun x hx hi => hserved ⟨x, hx, hi⟩).trans he, .refl kind e, fun _ => rfl⟩

/-- A member of which no error is told has carried out what it was called for. -/
theorem done_fanOut (hcall : Acts kind call) (h : net.Staffed r.memberNodes) (hn : n ∈ r.memberNodes)
    (hnone : ∀ a e, (call n a).2.told r.policy.timeout = .error e → (n.name, .error e) ∉ (r.fanOut net call).2.2) :
    n.Done kind net (r.fanOut net call).1 := by
  have reached := reached_fanOut hcall h
  obtain ⟨a, hx⟩ := mem_callEach call net hn
  have htold := mem_told_fanOut hx
  cases hy : (call n a).2.told r.policy.timeout with
  | error e => exact absurd (hy ▸ htold) (hnone a e hy)
  | ok y =>
    have houtcome := Reply.told_eq_ok hy
    have hreaches : net.reaches n.client.base = true := by
      by_contra hlost
      exact reached.lost _ hx (Bool.not_eq_true _ ▸ hlost) y houtcome
    obtain ⟨i, hi, -⟩ := h.served n hn hreaches
    obtain ⟨e, e', he, he', -, -, hdone⟩ := reached.each _ hx i hi
    exact ⟨i, e, e', hi, he, he', hdone y houtcome⟩

theorem blamed_verdict (action : String) (told : List (Told α)) :
    blamed (verdict action told) = (told.filter fun x => !x.2.isOk).map (·.1) := by
  have hfailures : (failures action told).map (·.node) = (told.filter fun x => !x.2.isOk).map (·.1) := by
    induction told with
    | nil => rfl
    | cons x told ih =>
      obtain ⟨name, x⟩ := x
      cases x with
      | ok a => exact ih
      | error e => exact congrArg (name :: ·) ih
  rw [← hfailures, verdict]
  by_cases hempty : (failures action told).isEmpty = true
  · rw [if_pos hempty, List.isEmpty_iff.mp hempty]
    rfl
  · rw [if_neg hempty]
    rfl

theorem mem_blamed_verdict {told : List (Told α)} {e : ClusterError} (h : (name, .error e) ∈ told) :
    name ∈ blamed (verdict action told) := by
  rw [blamed_verdict]
  exact List.mem_map.mpr ⟨_, List.mem_filter.mpr ⟨h, rfl⟩, rfl⟩

theorem verdict_eq_ok_iff {told : List (Told α)} :
    verdict action told = .ok () ↔ ∀ x ∈ told, x.2.isOk = true := by
  constructor
  · intro h x hx
    obtain ⟨name, y⟩ := x
    cases y with
    | ok a => rfl
    | error e =>
      have hblamed : name ∈ blamed (verdict action told) := mem_blamed_verdict hx
      rw [h] at hblamed
      cases hblamed
  · intro h
    have hnone : failures action told = [] := by
      refine List.filterMap_eq_nil_iff.mpr fun x hx => ?_
      obtain ⟨name, y⟩ := x
      cases y with
      | ok a => rfl
      | error e => cases h _ hx
    rw [verdict, hnone]
    rfl

/-- A mutation blames the members whose own calls come to an error. -/
theorem blamed_mutate (r : Roster) {m : Mutation} {call : Call Unit} (hcall : m.call = .ok call) (net : Network)
    (limit : Nat) : (r.operate net limit (.mutation m)).2 =
      (r.memberNodes.filter fun n => !(Reply.told r.policy.timeout (n.relay net limit call).2).isOk).map Node.name := by
  show blamed (r.mutate net limit m).2.outcome = _
  rw [outcome_mutate_eq hcall, blamed_verdict, List.filter_map, List.map_map]
  rfl

theorem done_mutate {m : Mutation} {call : Call Unit} (h : net.Staffed r.memberNodes) (hcall : m.call = .ok call)
    (limit : Nat) (hn : n ∈ r.memberNodes) (hblamed : n.name ∉ blamed (r.mutate net limit m).2.outcome) :
    n.Done m.kind net (r.mutate net limit m).1 := by
  rw [mutate_eq_broadcast r hcall] at hblamed ⊢
  exact done_fanOut (acts_relay (Mutation.call_commands hcall) limit) h hn
    fun _ _ _ htold => hblamed (mem_blamed_verdict htold)

/-- A member whose row has no error has answered the question for the data source. -/
theorem done_status (h : net.Staffed r.memberNodes) (limit : Nat) (source : String) (hn : n ∈ r.memberNodes)
    (hrow : n.name ∉ ((r.status net limit source).2.2.filter (·.error ≠ "")).map (·.node)) :
    n.Done "status" net (r.status net limit source).1 := by
  refine done_fanOut (acts_relay (WorkerCall.status_commands source) limit) h hn fun a e he htold => hrow ?_
  -- An error has a text, so that the row of a member with an error shows one.
  have htext : e.text ≠ "" := Node.text_of_told (WorkerCall.read_status source) he
  exact List.mem_map.mpr ⟨_, List.mem_filter.mpr ⟨List.mem_map.mpr ⟨_, htold, rfl⟩, decide_eq_true htext⟩, rfl⟩

theorem isSkipped_of_ne {α : Type} {e : ClusterError} (h : e ≠ .notReady) (name : String) :
    isSkipped ((name, .error e) : Told α) = false := by
  cases e <;> first | rfl | exact absurd rfl h

theorem done_storages (h : net.Staffed r.memberNodes) (limit : Nat) (hn : n ∈ r.memberNodes) (hready : n.isReady = true)
    (hblamed : n.name ∉ blamed (r.storages net limit).2.outcome) : n.Done "storages" net (r.storages net limit).1 := by
  refine done_fanOut (acts_storages limit) h hn fun a e he htold => hblamed ?_
  -- Only a node that is not ready is skipped.
  have hne : e ≠ .notReady := by
    rintro rfl
    rcases Reply.told_eq_error he with houtcome | hx
    · exact Node.relay_ne_notReady hready a limit WorkerCall.storages (map_eq_error houtcome)
    · cases hx
  show n.name ∈ blamed ((verdict "list storages" _).map _)
  rw [blamed_map]
  exact mem_blamed_verdict (List.mem_filter.mpr ⟨htold, by rw [isSkipped_of_ne hne]; rfl⟩)

theorem operate_once (o : Operation) (h : net.Staffed r.memberNodes) (hnodup : r.memberNodes.Nodup) (limit : Nat) :
    r.ActedOnce o.kind (o.calls net) net (r.operate net limit o).1 ∧
    (o.isSent = true → ∀ n ∈ r.memberNodes, n.name ∉ (r.operate net limit o).2 → (o = .storages → n.isReady = true) →
      n.Done o.kind net (r.operate net limit o).1) := by
  cases o with
  | mutation m =>
    cases hcall : m.call with
    | error e =>
      have hsent : (Operation.mutation m).isSent = false := congrArg Except.isOk hcall
      have hcalls : (Operation.mutation m).calls net = fun _ => false := by
        funext n
        rw [Operation.calls, hsent, Bool.false_and]
      have hafter : (r.operate net limit (.mutation m)).1 = net := congrArg Prod.fst (mutate_eq_refused r hcall)
      rw [hcalls, hafter, hsent]
      exact ⟨.refl r _ net, fun h => by cases h⟩
    | ok call =>
      have hsent : (Operation.mutation m).isSent = true := congrArg Except.isOk hcall
      have hcalls : (Operation.mutation m).calls net = fun n => n.isReady && net.reaches n.client.base := by
        funext n
        rw [Operation.calls, hsent, Bool.true_and]
      have hafter : (r.operate net limit (.mutation m)).1 = (r.fanOut net fun n net => n.relay net limit call).1 :=
        mutate_fst hcall r net limit
      refine ⟨?_, fun _ n hn hblamed _ => done_mutate h hcall limit hn hblamed⟩
      rw [hcalls, hafter]
      exact acted_fanOut (acts_relay (Mutation.call_commands hcall) limit) h hnodup
  | status source =>
    exact ⟨acted_fanOut (acts_relay (WorkerCall.status_commands source) limit) h hnodup,
      fun _ n hn hrow _ => done_status h limit source hn hrow⟩
  | storages =>
    exact ⟨acted_fanOut (acts_storages limit) h hnodup,
      fun _ n hn hblamed hready => done_storages h limit hn (hready rfl) hblamed⟩

end Roster

namespace Cluster

/-- An operation on all members of a cluster in any state it can reach, in any network in which each member is served
by a worker with an engine of its own, or cannot be reached. Exactly one request arrives for each member that is ready
and can be reached, and none for another one; none at all is sent if a credential breaks a rule. Each engine gets one
command at most, and only of the operation's kind. Each member that is not reported as failed, and not skipped as not
ready when storages are listed, has carried one out, whatever has become of the others. As everywhere, requests are
assumed to keep within the sizes that the transport takes. -/
theorem operate_acts_once (policy : Policy) (common : CommonSettings) (net₀ : Network) (es : List Event) (net : Network)
    (limit : Nat) (o : Operation) (hstaffed : net.Staffed ((start policy common net₀).run es).roster.memberNodes) :
    let r := ((start policy common net₀).run es).roster
    let after := (r.operate net limit o).1
    let failed := (r.operate net limit o).2
    r.ActedOnce o.kind (o.calls net) net after ∧
    (o.isSent = true → ∀ n ∈ r.memberNodes, n.name ∉ failed → (o = .storages → n.isReady = true) →
      n.Done o.kind net after) := by
  intro r after failed
  have sound : r.Sound := sound_run policy common net₀ es
  exact r.operate_once o hstaffed sound.nodup_name.of_map limit

/-- An engine of which nothing was asked. -/
def freshEngine (fail : List (String × List String)) : Engine := ⟨"v1", "", fail, [], [], [], []⟩

/-- Three hosts with a worker each, of which the second has no room. -/
def threeHosts : Network where
  connected := true
  services :=
    [("[::1]:81", .worker "" "secret" 0), ("[::1]:82", .worker "" "secret" 1), ("[::1]:83", .worker "" "secret" 2)]
  engines := [freshEngine [], freshEngine [("load", ["no room"])], freshEngine []]
  engineOf := []
  arrived := []

/-- Of three workers one has no room and one is not ready; the one that is not reported has loaded what it was told. -/
theorem operate_acts_once_mixed :
    threeHosts.Staffed threeMembers.memberNodes ∧
    (threeMembers.operate threeHosts 2000 (.mutation (.load "sales"))).2 = ["two", "three"] ∧
    ∃ n ∈ threeMembers.memberNodes, n.name = "one" ∧
      n.Done "load" threeHosts (threeMembers.operate threeHosts 2000 (.mutation (.load "sales"))).1 := by
  have hstaffed : threeHosts.Staffed threeMembers.memberNodes := ⟨by decide +kernel, by decide +kernel⟩
  have hfailed : (threeMembers.operate threeHosts 2000 (.mutation (.load "sales"))).2 = ["two", "three"] := by
    refine (threeMembers.blamed_mutate (m := .load "sales") rfl threeHosts 2000).trans ?_
    decide +kernel
  have hone : ∃ n ∈ threeMembers.memberNodes, n.name = "one" := by decide +kernel
  obtain ⟨n, hn, hname⟩ := hone
  have h := operate_acts_once hastyPolicy blankSettings twoHosts threeWorkers threeHosts 2000
    (.mutation (.load "sales")) hstaffed
  refine ⟨hstaffed, hfailed, n, hn, hname, h.2 rfl n hn (fun hmem => ?_) fun h => by cases h⟩
  have hmem : n.name ∈ (threeMembers.operate threeHosts 2000 (.mutation (.load "sales"))).2 := hmem
  rw [hfailed, hname] at hmem
  exact absurd hmem (by decide)

end Cluster

end Muster
