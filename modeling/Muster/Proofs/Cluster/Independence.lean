import Muster.Proofs.Cluster.Broadcast
import Muster.Proofs.Network.Apart
import Muster.Proofs.Node.Taken

/-! # Members do not interfere

What a command to all members comes to at one of them does not depend on the others, however long they take, whatever
they answer, and whether they are there at all; and the command is over within the time for one call. -/

namespace Muster

/-! ### Calls to nodes -/

section
variable {α : Type} {P : String → Prop} {a b : Network}

/-- A call to a node keeps what two networks agree on, and comes to the same where they agree. -/
theorem Node.relay_agree (h : Network.AgreeOn P a b) (n : Node) (limit : Nat) (call : Call α) :
    Network.AgreeOn P (n.relay a limit call).1 (n.relay b limit call).1 ∧
      (P n.client.base.server → (n.relay a limit call).2 = (n.relay b limit call).2) := by
  cases hready : n.isReady with
  | false =>
    rw [relay_not_ready hready, relay_not_ready hready]
    exact ⟨h, fun _ => rfl⟩
  | true =>
    cases hrequest : n.client.request call with
    | error e =>
      rw [relay_unsent hready hrequest, relay_unsent hready hrequest]
      exact ⟨h, fun _ => rfl⟩
    | ok o =>
      obtain ⟨hagree, hsame⟩ := h.send (min limit n.policy.timeout.nanos) o
      rw [relay_sent hready hrequest, relay_sent hready hrequest]
      refine ⟨hagree, fun hP => ?_⟩
      rw [hsame (Client.server_of_request hrequest ▸ hP)]

/-- Calls to nodes, one after another, keep what two networks agree on, and each comes to the same where they agree. -/
theorem callEach_agree {call : Node → Network → Network × Reply α}
    (hcall : ∀ (n : Node) (a b : Network), Network.AgreeOn P a b → Network.AgreeOn P (call n a).1 (call n b).1 ∧
      (P n.client.base.server → (call n a).2 = (call n b).2))
    (h : Network.AgreeOn P a b) (nodes : List Node) :
    Network.AgreeOn P (callEach call a nodes).1 (callEach call b nodes).1 ∧
      ∀ (i : Nat) (n : Node), nodes[i]? = some n → P n.client.base.server →
        (callEach call a nodes).2[i]? = (callEach call b nodes).2[i]? := by
  induction nodes generalizing a b with
  | nil => exact ⟨h, fun i n hn => by cases hn⟩
  | cons k nodes ih =>
    obtain ⟨hagree, hsame⟩ := hcall k a b h
    obtain ⟨hrest, hothers⟩ := ih hagree
    refine ⟨hrest, fun i n hn hP => ?_⟩
    cases i with
    | zero =>
      obtain rfl : k = n := Option.some.inj hn
      show some (call k a).2 = some (call k b).2
      rw [hsame hP]
    | succ i => exact hothers i n hn hP

end

/-! ### Operations -/

namespace Operation

/-- What a member answers to an operation. -/
@[reducible] def Answer : Operation → Type
  | .mutation _ => Unit
  | .status _ => String
  | .storages => List StorageEntry

/-- What an operation comes to at one member. -/
def callNode : (o : Operation) → Nat → Node → Network → Network × Reply o.Answer
  | .mutation m, limit, n, net =>
    match m.call with
    | .ok call => n.relay net limit call
    | .error e => (net, ⟨0, .error e⟩)
  | .status name, limit, n, net => n.status net limit name
  | .storages, limit, n, net => n.storages net limit

section
variable {m : Mutation} {n : Node} {net : Network} {limit : Nat}

theorem callNode_of_refused {e : ClusterError} (h : m.call = .error e) :
    (Operation.mutation m).callNode limit n net = (net, ⟨0, .error e⟩) := by
  show (match m.call with
    | .ok call => n.relay net limit call
    | .error e => (net, ⟨0, .error e⟩)) = _
  rw [h]

theorem callNode_of_call {call : Call Unit} (h : m.call = .ok call) :
    (Operation.mutation m).callNode limit n net = n.relay net limit call := by
  show (match m.call with
    | .ok call => n.relay net limit call
    | .error e => (net, ⟨0, .error e⟩)) = _
  rw [h]

end

/-- What an operation is answered with. -/
inductive Result
  | done (x : Except ClusterError Unit)
  | reports (rows : List SourceReport)
  | entries (x : Except ClusterError (List StorageEntry))

/-- What an operation is answered with, from what is told of the members. -/
def resultOf : (o : Operation) → List (Told o.Answer) → Result
  | .mutation m, told =>
    .done <| match m.call with
      | .ok _ => Roster.verdict m.action told
      | .error e => .error e
  | .status _, told => .reports (told.map Roster.report)
  | .storages, told =>
    let asked := told.filter (!Roster.isSkipped ·)
    .entries ((Roster.verdict "list storages" asked).map fun _ => Roster.entries asked)

end Operation

namespace Roster

variable {net : Network} {limit : Nat}

/-- Carries out an operation: the network afterwards, the time it takes, and what it is answered with. -/
def carryOut (r : Roster) (net : Network) (limit : Nat) : Operation → Network × Nat × Operation.Result
  | .mutation m => let (net, reply) := r.mutate net limit m; (net, reply.after, .done reply.outcome)
  | .status name => let (net, after, rows) := r.status net limit name; (net, after, .reports rows)
  | .storages => let (net, reply) := r.storages net limit; (net, reply.after, .entries reply.outcome)

/-- The calls of an operation: the network afterwards, the time they take, and what is told of each member. -/
def calls (r : Roster) (net : Network) (limit : Nat) (o : Operation) : Network × Nat × List (Told o.Answer) :=
  if o.isSent then r.fanOut net (o.callNode limit) else (net, 0, [])

theorem calls_of_refused (r : Roster) {m : Mutation} {e : ClusterError} (h : m.call = .error e) :
    r.calls net limit (.mutation m) = (net, 0, []) := by
  have hsent : (Operation.mutation m).isSent = false := by
    show m.call.isOk = false
    rw [h]
    rfl
  unfold calls
  rw [hsent]
  rfl

theorem calls_of_call (r : Roster) {m : Mutation} {call : Call Unit} (h : m.call = .ok call) :
    r.calls net limit (.mutation m) = r.fanOut net fun n net => n.relay net limit call := by
  have hsent : (Operation.mutation m).isSent = true := by
    show m.call.isOk = true
    rw [h]
    rfl
  have hnode : (Operation.mutation m).callNode limit = fun n net => n.relay net limit call := by
    funext n net
    exact Operation.callNode_of_call h
  unfold calls
  rw [if_pos hsent, hnode]

/-- An operation is answered from what is told of its calls. -/
theorem carryOut_eq (r : Roster) (net : Network) (limit : Nat) (o : Operation) : r.carryOut net limit o =
    ((r.calls net limit o).1, (r.calls net limit o).2.1, o.resultOf (r.calls net limit o).2.2) := by
  cases o with
  | mutation m =>
    have hresult (told : List (Told Unit)) : (Operation.mutation m).resultOf told =
        .done (match m.call with | .ok _ => verdict m.action told | .error e => .error e) := rfl
    have hmutation : r.carryOut net limit (.mutation m) =
        ((r.mutate net limit m).1, (r.mutate net limit m).2.after, .done (r.mutate net limit m).2.outcome) := rfl
    cases hcall : m.call with
    | error e =>
      rw [r.calls_of_refused hcall, hmutation, r.mutate_eq_refused hcall, hresult, hcall]
    | ok call =>
      rw [r.calls_of_call hcall, hmutation, r.mutate_eq_broadcast hcall, hresult, hcall]
      rfl
  | status name => rfl
  | storages => rfl

theorem callNode_agree {P : String → Prop} {a b : Network} (h : Network.AgreeOn P a b) (o : Operation) (n : Node)
    (limit : Nat) : Network.AgreeOn P (o.callNode limit n a).1 (o.callNode limit n b).1 ∧
      (P n.client.base.server → (o.callNode limit n a).2 = (o.callNode limit n b).2) := by
  cases o with
  | mutation m =>
    cases hcall : m.call with
    | error e =>
      rw [Operation.callNode_of_refused hcall, Operation.callNode_of_refused hcall]
      exact ⟨h, fun _ => rfl⟩
    | ok call =>
      rw [Operation.callNode_of_call hcall, Operation.callNode_of_call hcall]
      exact n.relay_agree h limit call
  | status name => exact n.relay_agree h limit (WorkerCall.status name)
  | storages =>
    have hnode (net : Network) : Operation.storages.callNode limit n net =
        ((n.relay net limit WorkerCall.storages).1, ⟨(n.relay net limit WorkerCall.storages).2.after,
          (n.relay net limit WorkerCall.storages).2.outcome.map (·.map ({ · with node := n.name }))⟩) := rfl
    obtain ⟨hagree, hsame⟩ := n.relay_agree h limit WorkerCall.storages
    rw [hnode, hnode]
    refine ⟨hagree, fun hP => ?_⟩
    rw [hsame hP]

/-- A command to all members keeps what two networks agree on, and tells the same of the members where they agree. -/
theorem fanOut_agree {α : Type} {P : String → Prop} {a b : Network} {call : Node → Network → Network × Reply α}
    (hcall : ∀ (n : Node) (a b : Network), Network.AgreeOn P a b → Network.AgreeOn P (call n a).1 (call n b).1 ∧
      (P n.client.base.server → (call n a).2 = (call n b).2))
    (h : Network.AgreeOn P a b) (r : Roster) :
    Network.AgreeOn P (r.fanOut a call).1 (r.fanOut b call).1 ∧
      ∀ (i : Nat) (n : Node), r.memberNodes[i]? = some n → P n.client.base.server →
        (r.fanOut a call).2.2[i]? = (r.fanOut b call).2.2[i]? := by
  obtain ⟨hagree, hsame⟩ := callEach_agree hcall h r.memberNodes
  refine ⟨hagree, fun i n hn hP => ?_⟩
  rw [told_fanOut, told_fanOut, List.zip_eq_zipWith, List.zip_eq_zipWith, List.getElem?_zipWith, List.getElem?_zipWith,
    List.getElem?_map, List.getElem?_map, List.getElem?_map, hsame i n hn hP]

theorem calls_agree {P : String → Prop} {a b : Network} (h : Network.AgreeOn P a b) (r : Roster) (limit : Nat)
    (o : Operation) : Network.AgreeOn P (r.calls a limit o).1 (r.calls b limit o).1 ∧
      ∀ (i : Nat) (n : Node), r.memberNodes[i]? = some n → P n.client.base.server →
        (r.calls a limit o).2.2[i]? = (r.calls b limit o).2.2[i]? := by
  unfold calls
  cases o.isSent with
  | false => exact ⟨h, fun _ _ _ _ => rfl⟩
  | true => exact fanOut_agree (fun n a b h => callNode_agree h o n limit) h r

theorem after_calls_le (r : Roster) (net : Network) (limit : Nat) (o : Operation) :
    (r.calls net limit o).2.1 ≤ r.policy.timeout.nanos := by
  unfold calls
  cases o.isSent with
  | false => exact Nat.zero_le _
  | true => exact Nat.min_le_left _ _

theorem names_calls (r : Roster) (net : Network) (limit : Nat) {o : Operation} (h : o.isSent = true) :
    (r.calls net limit o).2.2.map (·.1) = r.memberNodes.map Node.name := by
  unfold calls
  rw [if_pos h, told_fanOut, List.map_fst_zip]
  simp

end Roster

namespace Cluster

/-- Members do not interfere: where no two members have the same host, an operation is answered from what it comes to at
each member (`Roster.calls`), and if two networks differ in nothing but the host of a member `j` and what it runs, then
at every other member it comes to the same in both. So are the engines of all other hosts afterwards, and in both the
operation is over within the time for one call. -/
theorem carryOut_apart (policy : Policy) (common : CommonSettings) (net₀ : Network) (es : List Event) (a b : Network)
    (limit : Nat) (o : Operation) (j : Node) (hj : j ∈ ((start policy common net₀).run es).roster.memberNodes)
    (hdistinct : (((start policy common net₀).run es).roster.memberNodes.map (·.client.base.server)).Nodup)
    (hab : Network.AgreeOn (· ≠ j.client.base.server) a b) :
    let r := ((start policy common net₀).run es).roster
    let x := r.calls a limit o
    let y := r.calls b limit o
    (∀ (i : Nat) (n : Node), r.memberNodes[i]? = some n → n ≠ j → x.2.2[i]? = y.2.2[i]?) ∧
    Network.AgreeOn (· ≠ j.client.base.server) x.1 y.1 ∧
    (x.2.1 ≤ policy.timeout.nanos ∧ y.2.1 ≤ policy.timeout.nanos) ∧
    ∀ net, r.carryOut net limit o =
        ((r.calls net limit o).1, (r.calls net limit o).2.1, o.resultOf (r.calls net limit o).2.2) ∧
      (o.isSent = true → (r.calls net limit o).2.2.map (·.1) = r.memberNodes.map Node.name) := by
  intro r x y
  have hpolicy : r.policy = policy := policy_run policy common net₀ es
  obtain ⟨hagree, hsame⟩ := Roster.calls_agree hab r limit o
  refine ⟨fun i n hn hne => hsame i n hn fun hserver => hne ?_, hagree, ⟨?_, ?_⟩, fun net => ⟨?_, ?_⟩⟩
  · exact List.inj_on_of_nodup_map hdistinct (List.mem_of_getElem? hn) hj hserver
  · exact hpolicy ▸ r.after_calls_le a limit o
  · exact hpolicy ▸ r.after_calls_le b limit o
  · exact r.carryOut_eq net limit o
  · exact r.names_calls net limit

/-- The three hosts, of which the second has become one that takes its time. -/
def slowHosts : Network where
  connected := true
  services :=
    [("[::1]:81", .worker "" "secret" 0), ("[::1]:82", .stub (.empty 200) 999999), ("[::1]:83", .worker "" "secret" 2)]
  engines := [freshEngine [], freshEngine [("load", ["no room"])], freshEngine []]
  engineOf := []
  arrived := []

theorem agreeOn_slowHosts : Network.AgreeOn (· ≠ "[::1]:82") threeHosts slowHosts where
  connected := rfl
  services := fun server hP => by
    have hfalse : (server == "[::1]:82") = false := beq_false_of_ne hP
    unfold threeHosts slowHosts
    simp only [List.lookup_cons, hfalse]
  engines := fun _ _ _ => rfl
  spared := fun server mount secret i hP hlookup => by
    -- The engines of the first and the third host are theirs alone.
    have hengine : i ≠ 1 := by
      have hfalse : (server == "[::1]:82") = false := beq_false_of_ne hP
      rintro rfl
      unfold threeHosts at hlookup
      simp only [List.lookup_cons, hfalse] at hlookup
      split at hlookup
      · cases hlookup
      · split at hlookup <;> cases hlookup
    constructor
    · rintro server' mount' secret' hlookup' rfl
      exact hengine (Service.worker.inj (Option.some.inj hlookup')).2.2.symm
    · rintro server' mount' secret' hlookup' rfl
      cases hlookup'

/-- That the second host takes its time makes no difference to the first, which loads what it is told. -/
theorem carryOut_apart_slow :
    (threeMembers.memberNodes.map (·.client.base.server)).Nodup ∧
    Network.AgreeOn (· ≠ "[::1]:82") threeHosts slowHosts ∧
    (threeMembers.calls threeHosts 2000 (.mutation (.load "sales"))).2.2[0]? =
      (threeMembers.calls slowHosts 2000 (.mutation (.load "sales"))).2.2[0]? ∧
    (threeMembers.calls slowHosts 2000 (.mutation (.load "sales"))).2.1 ≤ 1000 := by
  have hdistinct : (threeMembers.memberNodes.map (·.client.base.server)).Nodup := by decide +kernel
  obtain ⟨j, hj, hserver⟩ : ∃ j ∈ threeMembers.memberNodes, j.client.base.server = "[::1]:82" := by decide +kernel
  obtain ⟨n, hn, hfirst⟩ : ∃ n, threeMembers.memberNodes[0]? = some n ∧ n.client.base.server = "[::1]:81" := by
    have hhead : (threeMembers.memberNodes[0]?).map (·.client.base.server) = some "[::1]:81" := by decide +kernel
    exact Option.map_eq_some_iff.mp hhead
  have hne : n ≠ j := by
    rintro rfl
    rw [hfirst] at hserver
    exact absurd hserver (by decide)
  obtain ⟨hsame, -, ⟨-, htime⟩, -⟩ := carryOut_apart hastyPolicy blankSettings twoHosts threeWorkers threeHosts
    slowHosts 2000 (.mutation (.load "sales")) j hj hdistinct (hserver ▸ agreeOn_slowHosts)
  exact ⟨hdistinct, agreeOn_slowHosts, hsame 0 n hn hne, htime⟩

end Cluster

end Muster
