import Mathlib.Data.List.Perm.Subperm
import Muster.Proofs.Cluster.Independence

/-! # Sweeps

An operation on all members looks once at who they are, and then calls one after another while everything else goes on: a
sweep. What it tells of a member is what came of the call that was made to it, and that the time was over if there was
none. -/

namespace Muster

/-! ### What a call sends -/

namespace Network

variable {net : Network} {o : Outgoing} {within : Nat}

theorem arrived_arrive (net : Network) (o : Outgoing) : (net.arrive o).1.arrived =
    net.arrived ++ if (net.serviceOf o).isSome then [⟨o.url.server, o.request⟩] else [] := by
  rw [arrive_eq]
  cases net.serviceOf o with
  | none => exact (List.append_nil _).symm
  | some service =>
    show ((net.deliver o).receive o.request service).1.arrived = net.arrived ++ [⟨o.url.server, o.request⟩]
    rcases receive_cases service o.request with ⟨delay, response, h, -⟩ | ⟨_, _, engine, path, c, headOnly, -, -, -, h⟩
    · rw [h]
      rfl
    · rw [h]
      rfl

theorem arrived_land (net : Network) (flight : Flight) : (net.land flight).1.arrived = net.arrived := by
  cases flight with
  | settled x => rfl
  | command engine c headOnly =>
    show (net.finish engine c).1.arrived = net.arrived
    rw [finish_eq]

/-- A request that is sent arrives at its host if somebody is there, and nothing else does. -/
theorem arrived_send (net : Network) (within : Nat) (o : Outgoing) : (net.send within o).1.arrived =
    net.arrived ++ if (net.serviceOf o).isSome then [⟨o.url.server, o.request⟩] else [] := by
  by_cases h : (net.reply o).1 < within
  · rw [send_of_lt h]
    exact (arrived_land _ _).trans (arrived_arrive net o)
  · rw [send_of_not_lt h]
    exact arrived_arrive net o

theorem serviceOf_isSome {base : Url} (h : net.reaches base = true) (hserver : o.url.server = base.server) :
    (net.serviceOf o).isSome = true := by
  obtain ⟨hconnected, hsome⟩ := Bool.and_eq_true_iff.mp h
  rw [serviceOf, if_pos hconnected, hserver, hsome]

end Network

/-- A call to a node sends at most one request, to the host of the node's own address, and does so if the node is ready
and its host can be reached. -/
theorem Node.relay_contacts {α : Type} (n : Node) (net : Network) (limit : Nat) (call : Call α) :
    ∃ sent, (n.relay net limit call).1.arrived = net.arrived ++ sent ∧ sent.length ≤ 1 ∧
      (∀ a ∈ sent, a.server = n.client.base.server) ∧
      (n.isReady = true → n.client.base.takesRequests = true → net.reaches n.client.base = true → sent ≠ []) := by
  cases hready : n.isReady with
  | false =>
    rw [relay_not_ready hready]
    refine ⟨[], (List.append_nil _).symm, Nat.zero_le 1, fun a ha => (by cases ha), fun h => (by cases h)⟩
  | true =>
    cases hrequest : n.client.request call with
    | error e =>
      rw [relay_unsent hready hrequest]
      refine ⟨[], (List.append_nil _).symm, Nat.zero_le 1, fun a ha => (by cases ha), fun _ htakes => ?_⟩
      obtain ⟨o, ho⟩ := n.client.request_of_takes call htakes
      rw [hrequest] at ho
      cases ho
    | ok o =>
      have hserver := Client.server_of_request hrequest
      rw [relay_sent hready hrequest]
      refine ⟨_, Network.arrived_send net _ o, ?_, fun a ha => ?_, fun _ _ hreaches => ?_⟩
      · split
        · exact Nat.le_refl 1
        · exact Nat.zero_le 1
      · split at ha
        · rw [List.mem_singleton.mp ha]
          exact hserver
        · cases ha
      · rw [if_pos (Network.serviceOf_isSome hreaches hserver)]
        exact List.cons_ne_nil _ _

namespace Operation

/-- A member is contacted as it should be: it is not if it is not ready, and otherwise at its own address, once. -/
structure Contacts (o : Operation) (limit : Nat) (n : Node) (net : Network) : Prop where
  unready : n.isReady = false → o.callNode limit n net = (net, ⟨0, .error .notReady⟩)
  ready : ∃ sent, (o.callNode limit n net).1.arrived = net.arrived ++ sent ∧ sent.length ≤ 1 ∧
    (∀ a ∈ sent, a.server = n.client.base.server) ∧
    (n.isReady = true → n.client.base.takesRequests = true → net.reaches n.client.base = true → sent ≠ [])

theorem contacts {o : Operation} (h : o.isSent = true) (limit : Nat) (n : Node) (net : Network) :
    o.Contacts limit n net := by
  cases o with
  | mutation m =>
    cases hcall : m.call with
    | error e =>
      have hnot : m.call.isOk = true := h
      rw [hcall] at hnot
      cases hnot
    | ok call =>
      constructor
      · intro hready
        rw [callNode_of_call hcall]
        exact Node.relay_not_ready hready net limit call
      · rw [callNode_of_call hcall]
        exact n.relay_contacts net limit call
  | status name => exact ⟨fun hready => Node.relay_not_ready hready net limit _, n.relay_contacts net limit _⟩
  | storages =>
    have hnode : Operation.storages.callNode limit n net =
        ((n.relay net limit WorkerCall.storages).1, ⟨(n.relay net limit WorkerCall.storages).2.after,
          (n.relay net limit WorkerCall.storages).2.outcome.map (·.map ({ · with node := n.name }))⟩) := rfl
    refine ⟨fun hready => ?_, n.relay_contacts net limit WorkerCall.storages⟩
    rw [hnode, Node.relay_not_ready hready]
    rfl

end Operation

/-! ### Sweeps -/

/-- A call of a sweep: whom it was made to, when, what it found, and what came of it. -/
structure Visit (o : Operation) where
  target : Nat
  time : Nat
  node : Node
  net : Network
  reply : Reply o.Answer

/-- An operation on all members under way: who they were when it began, each a name and the place of its node, and the
calls made so far. -/
structure Sweep (o : Operation) where
  limit : Nat
  deadline : Duration
  begun : Nat
  targets : List (String × Nat)
  visits : List (Visit o)

/-- The members of a roster, each with its name and the place of its node. -/
def Roster.targets (r : Roster) : List (String × Nat) :=
  r.members.filterMap fun (_, id) => (r.nodes[id]?).map fun n => (n.name, id)

namespace Sweep

variable {o : Operation}

/-- A sweep begins with a look at who the members are. -/
def begin (c : Cluster) (o : Operation) (limit : Nat) : Sweep o :=
  ⟨limit, c.roster.policy.timeout, c.clock.now, c.roster.targets, []⟩

/-- When a sweep is over at the latest. -/
def expiry (sw : Sweep o) : Nat := sw.begun + sw.deadline.nanos

/-- The targets that were called. -/
def called (sw : Sweep o) : List Nat := sw.visits.map (·.target)

/-- The node at the place of a target. -/
def found (sw : Sweep o) (r : Roster) (i : Nat) : Option Node := (sw.targets[i]?).bind fun t => r.nodes[t.2]?

/-- The call to a target is made, unless it was, or the sweep is over. -/
def visit (sw : Sweep o) (i : Nat) (c : Cluster) : Network × Sweep o :=
  match sw.found c.roster i with
  | none => (c.net, sw)
  | some n =>
    if i ∈ sw.called ∨ sw.expiry < c.clock.now then (c.net, sw)
    else
      let (net, reply) := o.callNode sw.limit n c.net
      (net, { sw with visits := sw.visits ++ [⟨i, c.clock.now, n, c.net, reply⟩] })

/-- The calls that ended in time. -/
def ended (sw : Sweep o) : List (Nat × Except ClusterError o.Answer) :=
  (sw.visits.filter fun v => v.time + v.reply.after < sw.expiry).map fun v => (v.target, v.reply.outcome)

/-- What is told of the members when the sweep is over. -/
def told (sw : Sweep o) : List (Told o.Answer) :=
  collect sw.deadline (sw.ended.length < sw.targets.length) (sw.targets.map (·.1)) sw.ended

/-- What is told of a call: its outcome if it ended in time, and else that the time was over. -/
def toldOf (sw : Sweep o) (v : Visit o) : Except ClusterError o.Answer :=
  if v.time + v.reply.after < sw.expiry then v.reply.outcome else .error (.timeout sw.deadline)

variable {sw : Sweep o} {c : Cluster} {i : Nat}

/-! ### Steps -/

theorem visit_call {n : Node} (hfound : sw.found c.roster i = some n) (hnew : i ∉ sw.called)
    (hintime : c.clock.now ≤ sw.expiry) : sw.visit i c = ((o.callNode sw.limit n c.net).1,
      { sw with visits := sw.visits ++ [⟨i, c.clock.now, n, c.net, (o.callNode sw.limit n c.net).2⟩] }) := by
  simp only [visit, hfound]
  rw [if_neg (not_or.mpr ⟨hnew, Nat.not_lt.mpr hintime⟩)]

/-- A step of a sweep does nothing, or it makes one call. -/
theorem visit_cases (sw : Sweep o) (i : Nat) (c : Cluster) : sw.visit i c = (c.net, sw) ∨
    ∃ n, sw.found c.roster i = some n ∧ i ∉ sw.called ∧ c.clock.now ≤ sw.expiry ∧
      sw.visit i c = ((o.callNode sw.limit n c.net).1,
        { sw with visits := sw.visits ++ [⟨i, c.clock.now, n, c.net, (o.callNode sw.limit n c.net).2⟩] }) := by
  cases hfound : sw.found c.roster i with
  | none => exact Or.inl (by simp only [visit, hfound])
  | some n =>
    by_cases h : i ∈ sw.called ∨ sw.expiry < c.clock.now
    · refine Or.inl ?_
      simp only [visit, hfound]
      rw [if_pos h]
    · obtain ⟨hnew, hintime⟩ := not_or.mp h
      have hintime := Nat.not_lt.mp hintime
      exact Or.inr ⟨n, rfl, hnew, hintime, visit_call hfound hnew hintime⟩

/-! ### What is told -/

/-- Every call is to a target, and no two are to the same. -/
structure Orderly (sw : Sweep o) : Prop where
  once : sw.called.Nodup
  target : ∀ i ∈ sw.called, i < sw.targets.length

theorem mem_ended {x : Except ClusterError o.Answer} :
    (i, x) ∈ sw.ended ↔ ∃ v ∈ sw.visits, v.time + v.reply.after < sw.expiry ∧ v.target = i ∧ v.reply.outcome = x := by
  simp only [ended, List.mem_map, List.mem_filter, decide_eq_true_eq, Prod.mk.injEq, and_assoc]

theorem ended_sublist (sw : Sweep o) : (sw.ended.map (·.1)).Sublist sw.called := by
  rw [ended, List.map_map]
  exact List.filter_sublist.map _

theorem Orderly.eq_of_target (h : sw.Orderly) {v v' : Visit o} (hv : v ∈ sw.visits) (hv' : v' ∈ sw.visits)
    (htarget : v.target = v'.target) : v = v' :=
  List.inj_on_of_nodup_map h.once hv hv' htarget

/-- If some target's call has not ended, not all calls have. -/
theorem Orderly.ended_lt (h : sw.Orderly) (hi : i < sw.targets.length) (hout : i ∉ sw.ended.map (·.1)) :
    sw.ended.length < sw.targets.length := by
  have hnodup : (i :: sw.ended.map (·.1)).Nodup := List.nodup_cons.mpr ⟨hout, h.once.sublist sw.ended_sublist⟩
  have hrange : i :: sw.ended.map (·.1) ⊆ List.range sw.targets.length := by
    intro j hj
    rcases List.mem_cons.mp hj with rfl | hj
    · exact List.mem_range.mpr hi
    · exact List.mem_range.mpr (h.target j (sw.ended_sublist.subset hj))
  have hle := (hnodup.subperm hrange).length_le
  rwa [List.length_cons, List.length_map, List.length_range] at hle

theorem map_fst_told (sw : Sweep o) : sw.told.map (·.1) = sw.targets.map (·.1) := by
  rw [told, collect, List.map_fst_zip]
  simp

/-- What is told of a target is what was put into its place. -/
theorem told_of_place {t : String × Nat} {x : Option (Except ClusterError o.Answer)} (ht : sw.targets[i]? = some t)
    (hx : (place ((sw.targets.map (·.1)).map fun _ => none) sw.ended)[i]? = some x) :
    sw.told[i]? = some (t.1, x.getD (unended sw.deadline (sw.ended.length < sw.targets.length))) := by
  rw [told, collect, List.zip_eq_zipWith, List.getElem?_zipWith, List.getElem?_map, List.getElem?_map, ht, hx]
  rfl

theorem Orderly.told_ended (h : sw.Orderly) {t : String × Nat} {x : Except ClusterError o.Answer}
    (ht : sw.targets[i]? = some t) (hx : (i, x) ∈ sw.ended) : sw.told[i]? = some (t.1, x) := by
  have hi : i < ((sw.targets.map (·.1)).map fun _ => (none : Option (Except ClusterError o.Answer))).length := by
    rw [List.length_map, List.length_map]
    exact (List.getElem?_eq_some_iff.mp ht).1
  exact told_of_place ht (place_of_mem (h.once.sublist sw.ended_sublist) hx hi)

theorem Orderly.told_unended (h : sw.Orderly) {t : String × Nat} (ht : sw.targets[i]? = some t)
    (hout : i ∉ sw.ended.map (·.1)) : sw.told[i]? = some (t.1, .error (.timeout sw.deadline)) := by
  have hplace : (place ((sw.targets.map (·.1)).map fun _ => none) sw.ended)[i]? =
      some (none : Option (Except ClusterError o.Answer)) := by
    rw [place_of_not_mem hout, List.getElem?_map, List.getElem?_map, ht]
    rfl
  rw [told_of_place ht hplace, decide_eq_true (h.ended_lt (List.getElem?_eq_some_iff.mp ht).1 hout)]
  rfl

/-- Of a target that was called is told what came of its call. -/
theorem Orderly.told_called (h : sw.Orderly) {t : String × Nat} {v : Visit o} (hv : v ∈ sw.visits)
    (ht : sw.targets[v.target]? = some t) : sw.told[v.target]? = some (t.1, sw.toldOf v) := by
  unfold toldOf
  split
  · exact h.told_ended ht (mem_ended.mpr ⟨v, hv, ‹_›, rfl, rfl⟩)
  · refine h.told_unended ht fun hended => ?_
    obtain ⟨⟨i, x⟩, hmem, hi⟩ := List.mem_map.mp hended
    obtain ⟨v', hv', hlt, htarget, -⟩ := mem_ended.mp hmem
    obtain rfl := h.eq_of_target hv' hv (htarget.trans hi)
    contradiction

theorem Orderly.told_uncalled (h : sw.Orderly) {t : String × Nat} (ht : sw.targets[i]? = some t)
    (hnew : i ∉ sw.called) : sw.told[i]? = some (t.1, .error (.timeout sw.deadline)) :=
  h.told_unended ht fun hended => hnew (sw.ended_sublist.subset hended)

end Sweep

/-! ### Members as targets -/

namespace Roster

variable {r : Roster}

theorem map_fst_targets (r : Roster) : r.targets.map (·.1) = r.memberNodes.map Node.name := by
  simp only [targets, memberNodes, List.map_filterMap, Option.map_map, Function.comp_def]

/-- The node at the place of a target is the member's. -/
theorem nodes_targets (r : Roster) : (r.targets.map fun t => r.nodes[t.2]?) = r.memberNodes.map some := by
  rw [targets, memberNodes, List.map_filterMap, List.map_filterMap]
  refine List.filterMap_congr fun m _ => ?_
  simp only [Option.map_map]
  cases hn : r.nodes[m.2]? with
  | none => rfl
  | some n => exact congrArg some hn

/-- A member is a target under its name, at the place of its node. -/
theorem targets_of_memberNodes (r : Roster) {i : Nat} {n : Node} (hn : r.memberNodes[i]? = some n) :
    ∃ t, r.targets[i]? = some t ∧ t.1 = n.name ∧ r.nodes[t.2]? = some n := by
  have hnode := congrArg (·[i]?) r.nodes_targets
  simp only [List.getElem?_map, hn, Option.map_some] at hnode
  obtain ⟨t, ht, hnode⟩ := Option.map_eq_some_iff.mp hnode
  have hname := congrArg (·[i]?) r.map_fst_targets
  simp only [List.getElem?_map, ht, hn, Option.map_some, Option.some.injEq] at hname
  exact ⟨t, ht, hname, hnode⟩

/-- Every node keeps its place, and stays what it was made as. -/
def Extends (a b : Roster) : Prop :=
  ∀ (id : Nat) (n : Node), a.nodes[id]? = some n → ∃ k : Node, b.nodes[id]? = some k ∧ k.identity = n.identity

theorem Extends.refl (r : Roster) : r.Extends r := fun _ n hn => ⟨n, hn, rfl⟩

theorem Extends.trans {a b d : Roster} (h : a.Extends b) (k : b.Extends d) : a.Extends d := by
  intro id n hn
  obtain ⟨n', hn', hsame⟩ := h id n hn
  obtain ⟨n'', hn'', hsame'⟩ := k id n' hn'
  exact ⟨n'', hn'', hsame'.trans hsame⟩

end Roster

/-- Of a sweep whose targets are the members of a roster, each has the name of its member, and what stands at its place in
a roster that extends that one is what became of the member's node. -/
theorem Sweep.exists_found {o : Operation} {sw : Sweep o} {r r' : Roster} {i : Nat} {n : Node}
    (htargets : sw.targets = r.targets) (hextends : r.Extends r') (hn : r.memberNodes[i]? = some n) :
    (∃ t, sw.targets[i]? = some t ∧ t.1 = n.name) ∧ ∃ k, sw.found r' i = some k ∧ k.identity = n.identity := by
  obtain ⟨t, ht, hname, hnode⟩ := r.targets_of_memberNodes hn
  obtain ⟨k, hk, hsame⟩ := hextends t.2 n hnode
  refine ⟨⟨t, htargets ▸ ht, hname⟩, k, ?_, hsame⟩
  rw [found, htargets, ht]
  exact hk

end Muster
