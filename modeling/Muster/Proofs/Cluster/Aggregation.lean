import Muster.Proofs.Cluster.Run
import Muster.Proofs.Node.Relay
import Muster.Proofs.Roster.Collect

/-! # What a mutation comes to

A mutation of all members succeeds if every member carries it out, and otherwise reports exactly the members that do
not, in order. What a member does is told by the network at the beginning: no other member's call changes it. -/

namespace Muster

open Worker

namespace Node

variable {n : Node} {net : Network} {limit within : Nat} {call : Call Unit}

/-- How long a call to the node lasts if nobody gives it up. A call for which nothing is sent takes no time. -/
def lasts {α : Type} (n : Node) (net : Network) (call : Call α) : Nat :=
  if n.isReady then
    match n.client.request call with
    | .error _ => 0
    | .ok o => (net.reply o).1
  else 0

/-- The node carries out a command: it is ready, and answers in time with a success whose document reports one. -/
def Obeys (n : Node) (net : Network) (within : Nat) (call : Call Unit) : Prop :=
  n.isReady = true ∧ ∃ o answer result, n.client.request call = .ok o ∧ (net.reply o).1 < within ∧
    (net.reply o).2 = .answered answer ∧ answer.isSuccess = true ∧
    Json.decode CommandResult.read answer.body = .ok result ∧ result.success = true

/-- Whether the node carries out a command can be found out. -/
def obeys (n : Node) (net : Network) (within : Nat) (call : Call Unit) : Bool :=
  n.isReady &&
    match n.client.request call with
    | .error _ => false
    | .ok o =>
      (net.reply o).1 < within &&
        match (net.reply o).2 with
        | .answered answer =>
          answer.isSuccess &&
            match Json.decode CommandResult.read answer.body with
            | .error _ => false
            | .ok result => result.success
        | _ => false

theorem obeys_eq_true : n.obeys net within call = true ↔ n.Obeys net within call := by
  unfold obeys Obeys
  rw [Bool.and_eq_true]
  refine and_congr_right fun _ => ?_
  cases n.client.request call with
  | error e => simp
  | ok o =>
    cases hx : (net.reply o).2 with
    | unreachable => simp [hx]
    | timedOut => simp [hx]
    | answered answer => cases hdecode : Json.decode CommandResult.read answer.body <;> simp [hx, hdecode]

instance : Decidable (n.Obeys net within call) := decidable_of_iff _ obeys_eq_true

/-- What a node is reported with that does not carry out a command. -/
def complaint (n : Node) (net : Network) (within : Nat) (call : Call Unit) : String :=
  if n.isReady then
    match n.client.request call with
    | .error e => e.text
    | .ok o =>
      if (net.reply o).1 < within then
        match (net.reply o).2 with
        | .answered answer =>
          if answer.isSuccess then
            match Json.decode CommandResult.read answer.body with
            | .error _ => undecodable
            | .ok result => result.message
          else refusalText answer
        | .timedOut => (ClusterError.timeout n.policy.timeout).text
        | .unreachable => (CallError.unreachable o.url).text
      else (ClusterError.timeout n.policy.timeout).text
  else "node is not ready"

/-- What is told of a command to a node: success if it obeys, and its complaint if it does not. -/
def Tells (n : Node) (net : Network) (within : Nat) (call : Call Unit) (x : Except ClusterError Unit) : Prop :=
  n.Obeys net within call ∧ x = .ok () ∨
    ¬ n.Obeys net within call ∧ ∃ e, x = .error e ∧ e.text = n.complaint net within call

theorem complaint_not_ready (h : n.isReady = false) (net : Network) (within : Nat) (call : Call Unit) :
    n.complaint net within call = "node is not ready" := by
  rw [complaint, h]
  rfl

section
variable {o : Outgoing}

/-- Only its answer makes a node obey to which a call was sent. -/
theorem obeys_iff (hready : n.isReady = true) (ho : n.client.request call = .ok o) :
    n.Obeys net within call ↔ (net.reply o).1 < within ∧ ∃ answer result, (net.reply o).2 = .answered answer ∧
      answer.isSuccess = true ∧ Json.decode CommandResult.read answer.body = .ok result ∧ result.success = true := by
  constructor
  · rintro ⟨-, o', answer, result, ho', hlt, h⟩
    rw [ho] at ho'
    obtain rfl := Except.ok.inj ho'
    exact ⟨hlt, answer, result, h⟩
  · rintro ⟨hlt, answer, result, h⟩
    exact ⟨hready, o, answer, result, ho, hlt, h⟩

theorem complaint_eq (hready : n.isReady = true) (ho : n.client.request call = .ok o) (net : Network) (within : Nat) :
    n.complaint net within call =
      if (net.reply o).1 < within then
        match (net.reply o).2 with
        | .answered answer =>
          if answer.isSuccess then
            match Json.decode CommandResult.read answer.body with
            | .error _ => undecodable
            | .ok result => result.message
          else refusalText answer
        | .timedOut => (ClusterError.timeout n.policy.timeout).text
        | .unreachable => (CallError.unreachable o.url).text
      else (ClusterError.timeout n.policy.timeout).text := by
  rw [complaint, if_pos hready, ho]

/-- What becomes of a command is read off the answer: a document that reports success, or an error. -/
theorem outcome_answered (n : Node) (hread : call.read = readResult) (url : Url) (answer : Http.Response) :
    n.outcome (call.outcome url (.answered answer)) =
      if answer.isSuccess then
        match Json.decode CommandResult.read answer.body with
        | .error _ => .error (.worker undecodable)
        | .ok result => if result.success then .ok () else .error (.worker result.message)
      else .error (.worker (refusalText answer)) := by
  simp only [Call.outcome, hread, readResult, readBody]
  cases answer.isSuccess with
  | false => rfl
  | true =>
    cases Json.decode CommandResult.read answer.body with
    | error f => rfl
    | ok result =>
      obtain ⟨success, message⟩ := result
      cases success <;> rfl

theorem outcome_tells (hready : n.isReady = true) (hread : call.read = readResult)
    (ho : n.client.request call = .ok o) (hlt : (net.reply o).1 < within) :
    n.Tells net within call (n.outcome (call.outcome o.url (net.reply o).2)) := by
  unfold Tells
  rw [obeys_iff hready ho, complaint_eq hready ho, if_pos hlt]
  cases hx : (net.reply o).2 with
  | unreachable => exact Or.inr ⟨fun ⟨_, _, _, h, _⟩ => (by cases h), _, rfl, rfl⟩
  | timedOut => exact Or.inr ⟨fun ⟨_, _, _, h, _⟩ => (by cases h), _, rfl, rfl⟩
  | answered answer =>
    rw [outcome_answered n hread]
    dsimp only
    have same : ∀ {a : Http.Response}, Exchange.answered answer = .answered a → answer = a := fun h => by
      cases h
      rfl
    cases hsuccess : answer.isSuccess with
    | false =>
      refine Or.inr ⟨fun ⟨_, _, _, h, hs, _⟩ => ?_, _, rfl, rfl⟩
      rw [← same h, hsuccess] at hs
      cases hs
    | true =>
      cases hdecode : Json.decode CommandResult.read answer.body with
      | error f =>
        refine Or.inr ⟨fun ⟨_, _, _, h, _, hd, _⟩ => ?_, _, rfl, rfl⟩
        rw [← same h, hdecode] at hd
        cases hd
      | ok result =>
        cases hresult : result.success with
        | true =>
          refine Or.inl ⟨⟨hlt, answer, result, rfl, hsuccess, hdecode, hresult⟩, ?_⟩
          exact if_pos hresult
        | false =>
          refine Or.inr ⟨fun ⟨_, _, _, h, _, hd, hr⟩ => ?_, .worker result.message, ?_, rfl⟩
          · rw [← same h, hdecode] at hd
            obtain rfl := Except.ok.inj hd
            rw [hresult] at hr
            cases hr
          · show (if result.success = true then Except.ok () else Except.error (ClusterError.worker result.message)) = _
            rw [hresult]
            rfl

end

/-- What is told of a command after the deadline of its node's policy. A command that lasts exactly as long as the
deadline could be told either way. -/
theorem told_relay (n : Node) (net : Network) (limit : Nat) (hread : call.read = readResult)
    (hlasts : n.lasts net call ≠ n.policy.timeout.nanos) :
    n.Tells net (min limit n.policy.timeout.nanos) call (Reply.told n.policy.timeout (n.relay net limit call).2) := by
  -- What takes no time is told in time.
  have at_once : ∀ e : ClusterError, n.lasts net call = 0 →
      Reply.told n.policy.timeout (⟨0, .error e⟩ : Reply Unit) = .error e := by
    intro e h0
    have hpos : 0 < n.policy.timeout.nanos := Nat.pos_of_ne_zero fun h => hlasts (h0.trans h.symm)
    exact if_pos hpos
  cases hready : n.isReady with
  | false =>
    rw [relay_not_ready hready, at_once _ (by rw [lasts, hready]; rfl)]
    refine Or.inr ⟨fun h => ?_, .notReady, rfl, (complaint_not_ready hready ..).symm⟩
    rw [Obeys, hready] at h
    exact absurd h.1 Bool.false_ne_true
  | true =>
    cases hrequest : n.client.request call with
    | error e =>
      rw [relay_unsent hready hrequest, at_once _ (by rw [lasts, if_pos hready, hrequest])]
      refine Or.inr ⟨fun ⟨_, _, _, _, ho, _⟩ => ?_, .worker e.text, rfl, ?_⟩
      · rw [hrequest] at ho
        cases ho
      · rw [complaint, if_pos hready, hrequest]
        rfl
    | ok o =>
      rw [relay_sent hready hrequest, Network.send_reply]
      by_cases hlt : (net.reply o).1 < min limit n.policy.timeout.nanos
      · rw [if_pos hlt, Reply.told, if_pos (Nat.lt_of_lt_of_le hlt (Nat.min_le_right ..))]
        exact outcome_tells hready hread hrequest hlt
      · -- Whoever gives up first, the call is told as timed out.
        rw [if_neg hlt]
        refine Or.inr ⟨fun h => hlt ((obeys_iff hready hrequest).mp h).1, .timeout n.policy.timeout, ?_, ?_⟩
        · unfold Reply.told
          split <;> rfl
        · rw [complaint_eq hready hrequest, if_neg hlt]

end Node

theorem Mutation.read_call {m : Mutation} {call : Call Unit} (h : m.call = .ok call) : call.read = readResult := by
  cases m with
  | load name =>
    obtain rfl := Except.ok.inj h
    rfl
  | unload name =>
    obtain rfl := Except.ok.inj h
    rfl
  | unregisterStorage name =>
    obtain rfl := Except.ok.inj h
    rfl
  | registerStorage c =>
    obtain ⟨registration, -, rfl⟩ := map_eq_ok h
    rfl

namespace Roster

variable {r : Roster} {net : Network} {m : Mutation} {call : Call Unit}

/-- The members that are ready, in order. -/
def readyNodes (r : Roster) : List Node := r.memberNodes.filter (·.isReady)

theorem mem_readyNodes {n : Node} : n ∈ r.readyNodes ↔ n ∈ r.memberNodes ∧ n.isReady = true := List.mem_filter

/-- The failures of a call to nodes are those of which an error is told, in order, each with the text of its own. -/
theorem failures_map {α : Type} (action : String) {tell : Node → Except ClusterError α} {fails : Node → Prop}
    [DecidablePred fails] {text : Node → String} : ∀ {nodes : List Node},
    (∀ n ∈ nodes, (∃ a, ¬ fails n ∧ tell n = .ok a) ∨ ∃ e, fails n ∧ tell n = .error e ∧ e.text = text n) →
      failures action (nodes.map fun n => (n.name, tell n)) =
        (nodes.filter fun n => fails n).map fun n => ⟨n.name, action, text n⟩
  | [], _ => rfl
  | n :: nodes, h => by
    have ih := failures_map action fun k hk => h k (List.mem_cons_of_mem n hk)
    unfold failures at ih ⊢
    rcases h n List.mem_cons_self with ⟨a, hnot, htell⟩ | ⟨e, hfails, htell, htext⟩
    · rw [List.filter_cons_of_neg (by simpa using hnot), ← ih, List.map_cons, List.filterMap_cons_none (by rw [htell])]
    · rw [List.filter_cons_of_pos (by simpa using hfails), List.map_cons, List.map_cons, ← ih,
        List.filterMap_cons_some (by rw [htell]), htext]

/-- The failures of a command are the members that do not obey, each with its own complaint. -/
theorem failures_eq {within : Nat} (action : String) {tell : Node → Except ClusterError Unit} {nodes : List Node}
    (h : ∀ n ∈ nodes, n.Tells net within call (tell n)) :
    failures action (nodes.map fun n => (n.name, tell n)) =
      (nodes.filter fun n => ¬ n.Obeys net within call).map fun n => ⟨n.name, action, n.complaint net within call⟩ := by
  refine failures_map action fun n hn => ?_
  rcases h n hn with ⟨hobeys, htell⟩ | ⟨hnot, e, htell, htext⟩
  · exact Or.inl ⟨(), not_not_intro hobeys, htell⟩
  · exact Or.inr ⟨e, hnot, htell, htext⟩

/-- What is told of a call that is relayed to all members: of each what its own call comes to in the network as it is
at the beginning, since no call changes what the others come to. -/
theorem told_relays {α : Type} (r : Roster) (net : Network) (limit : Nat) (call : Call α) :
    (r.fanOut net fun n net => n.relay net limit call).2.2 =
      r.memberNodes.map fun n => (n.name, Reply.told r.policy.timeout (n.relay net limit call).2) := by
  have replies : (callEach (fun n net => n.relay net limit call) net r.memberNodes).2 =
      r.memberNodes.map fun n => (n.relay net limit call).2 :=
    callEach_eq_map (L := fun a => Network.Like (asks call.method) a net)
      (fun n a h => (n.relay_like h limit).1) (fun n a h => (n.relay_like h limit).2) (.refl _ net) r.memberNodes
  rw [told_fanOut, replies, List.map_map, List.zip_map']
  rfl

theorem mutate_fst (hcall : m.call = .ok call) (r : Roster) (net : Network) (limit : Nat) :
    (r.mutate net limit m).1 = (callEach (fun n net => n.relay net limit call) net r.memberNodes).1 := by
  rw [r.mutate_eq_broadcast hcall]
  rfl

/-- A mutation that can be sent comes to what is told of its calls. -/
theorem outcome_mutate_eq (hcall : m.call = .ok call) (r : Roster) (net : Network) (limit : Nat) :
    (r.mutate net limit m).2.outcome = verdict m.action
      (r.memberNodes.map fun n => (n.name, (n.relay net limit call).2.told r.policy.timeout)) := by
  rw [r.mutate_eq_broadcast hcall, ← told_relays]
  rfl

/-- The outcome of a mutation that can be sent, and no member's call of which lasts exactly as long as a call may. -/
theorem Sound.outcome_mutate (h : r.Sound) (limit : Nat) (hcall : m.call = .ok call)
    (hlasts : ∀ n ∈ r.memberNodes, n.lasts net call ≠ r.policy.timeout.nanos) :
    let others := r.memberNodes.filter fun n => ¬ n.Obeys net (min limit r.policy.timeout.nanos) call
    (r.mutate net limit m).2.outcome =
      if others.isEmpty then .ok ()
      else .error (.broadcast (others.map fun n =>
        ⟨n.name, m.action, n.complaint net (min limit r.policy.timeout.nanos) call⟩)) := by
  intro others
  have hread := Mutation.read_call hcall
  have tells : ∀ n ∈ r.memberNodes, n.Tells net (min limit r.policy.timeout.nanos) call
      (Reply.told r.policy.timeout (n.relay net limit call).2) := by
    intro n hn
    have hpolicy : n.policy = r.policy := (h.made_member hn).1
    have hn' := n.told_relay net limit hread (hpolicy ▸ hlasts n hn)
    rwa [hpolicy] at hn'
  rw [outcome_mutate_eq hcall, verdict, failures_eq m.action tells]
  show (if (others.map _).isEmpty then _ else _) = _
  rw [List.isEmpty_map]

end Roster

namespace Cluster

/-- A mutation of all members of a cluster in any state it can reach, in any network. It succeeds if and only if every
member obeys; otherwise it fails with exactly the members that do not, each once, in order, under the action and with
its own complaint, and the text of the failure has a line for each of them. Nobody is reported who obeys. -/
theorem mutate_aggregates (policy : Policy) (common : CommonSettings) (net₀ : Network) (es : List Event) (net : Network)
    (limit : Nat) (m : Mutation) (call : Call Unit) (hcall : m.call = .ok call)
    (hlasts : ∀ n ∈ ((start policy common net₀).run es).roster.memberNodes,
      n.lasts net call ≠ policy.timeout.nanos) :
    let r := ((start policy common net₀).run es).roster
    let within := min limit policy.timeout.nanos
    let others := r.memberNodes.filter fun n => ¬ n.Obeys net within call
    let outcome := (r.mutate net limit m).2.outcome
    (outcome = .ok () ↔ ∀ n ∈ r.memberNodes, n.Obeys net within call) ∧
    (outcome ≠ .ok () → ∃ e, outcome = .error e ∧
      e = .broadcast (others.map fun n => ⟨n.name, m.action, n.complaint net within call⟩) ∧
      e.text = ";\n".intercalate (others.map fun n =>
        "failed to " ++ m.action ++ " on node " ++ n.name ++ ": " ++ n.complaint net within call)) ∧
    (others.map Node.name).Nodup ∧
    (∀ n ∈ r.memberNodes, n.isReady = false → n.complaint net within call = "node is not ready") ∧
    ∀ n ∈ r.memberNodes, n.Obeys net within call → n.name ∉ Roster.blamed outcome := by
  intro r within others outcome
  have sound : r.Sound := sound_run policy common net₀ es
  have hpolicy : r.policy = policy := policy_run policy common net₀ es
  have houtcome := sound.outcome_mutate limit hcall (by rw [hpolicy]; exact hlasts)
  rw [hpolicy] at houtcome
  have empty_iff : others.isEmpty = true ↔ ∀ n ∈ r.memberNodes, n.Obeys net within call := by
    rw [List.isEmpty_iff, List.filter_eq_nil_iff]
    exact forall₂_congr fun n _ => by simp
  have succeeded (hempty : others.isEmpty = true) : outcome = .ok () := houtcome.trans (if_pos hempty)
  have failed (hne : ¬ others.isEmpty = true) : outcome =
      .error (.broadcast (others.map fun n => ⟨n.name, m.action, n.complaint net within call⟩)) :=
    houtcome.trans (if_neg hne)
  refine ⟨⟨fun hok => ?_, fun hall => succeeded (empty_iff.mpr hall)⟩, fun hne => ?_,
    (sound.nodup_name).sublist (List.filter_sublist.map _), fun n _ hn => Node.complaint_not_ready hn .., ?_⟩
  · by_contra hnot
    rw [failed (mt empty_iff.mp hnot)] at hok
    cases hok
  · refine ⟨_, failed fun hempty => hne (succeeded hempty), rfl, ?_⟩
    show ";\n".intercalate ((others.map _).map NodeFailure.text) = _
    rw [List.map_map]
    rfl
  · intro n hn hobeys hblamed
    by_cases hempty : others.isEmpty = true
    · rw [succeeded hempty] at hblamed
      cases hblamed
    · rw [failed hempty] at hblamed
      -- Nobody else has the name of a member, so that whoever is reported is the member itself.
      obtain ⟨failure, hfailure, hname⟩ := List.mem_map.mp hblamed
      obtain ⟨k, hk, rfl⟩ := List.mem_map.mp hfailure
      obtain ⟨hk, hnot⟩ := List.mem_filter.mp hk
      rw [List.inj_on_of_nodup_map sound.nodup_name hk hn hname] at hnot
      exact absurd hobeys (by simpa using hnot)

/-- Settings of which nothing is set. -/
def blankSettings : CommonSettings :=
  ⟨false, "", false, .none, ⟨"", false, "", "", "", "", false⟩, ⟨[], false, ⟨false, ""⟩, "", ""⟩⟩

/-- A policy under which a call may take a thousand nanoseconds. -/
def hastyPolicy : Policy := ⟨"secret", "v1", ⟨1000⟩, ⟨1000⟩⟩

/-- Three workers of which the last runs another version. -/
def threeWorkers : List Event :=
  [.changed (.enroll "one" "http://[::1]:81/" "v1"), .changed (.enroll "two" "http://[::1]:82/" "v1"),
    .changed (.enroll "three" "http://[::1]:83/" "v0")]

/-- Two hosts of which the second has no room. -/
def twoHosts : Network where
  connected := true
  services :=
    [("[::1]:81", .stub (.json (CommandResult.ok "loaded").encode) 5), ("[::1]:82", .stub (.text 500 "disk full") 999)]
  engines := []
  engineOf := []
  arrived := []

/-- The roster of three workers. -/
def threeMembers : Roster := ((start hastyPolicy blankSettings twoHosts).run threeWorkers).roster

/-- Of three workers one loads what it is told, one has no room, and one is not ready. -/
theorem mutate_aggregates_mixed :
    (∀ n ∈ threeMembers.memberNodes, n.lasts twoHosts (WorkerCall.load "sales") ≠ hastyPolicy.timeout.nanos) ∧
    (threeMembers.mutate twoHosts 2000 (.load "sales")).2.outcome = .error (.broadcast
      [⟨"two", "load data source sales", "disk full"⟩, ⟨"three", "load data source sales", "node is not ready"⟩]) := by
  have hlasts : ∀ n ∈ threeMembers.memberNodes,
      n.lasts twoHosts (WorkerCall.load "sales") ≠ hastyPolicy.timeout.nanos := by decide +kernel
  have h := mutate_aggregates hastyPolicy blankSettings twoHosts threeWorkers twoHosts 2000 (.load "sales")
    (WorkerCall.load "sales") rfl hlasts
  have hfail : ¬ ∀ n ∈ threeMembers.memberNodes, n.Obeys twoHosts (min 2000 hastyPolicy.timeout.nanos)
      (WorkerCall.load "sales") := by decide +kernel
  have hothers : (threeMembers.memberNodes.filter fun n => ¬ n.Obeys twoHosts (min 2000 hastyPolicy.timeout.nanos)
        (WorkerCall.load "sales")).map (fun n => (n.name, n.complaint twoHosts (min 2000 hastyPolicy.timeout.nanos)
        (WorkerCall.load "sales"))) = [("two", "disk full"), ("three", "node is not ready")] := by decide +kernel
  obtain ⟨e, houtcome, he, -⟩ := h.2.1 (mt h.1.mp hfail)
  have hfailures := congrArg (List.map fun x : String × String =>
    (⟨x.1, (Mutation.load "sales").action, x.2⟩ : NodeFailure)) hothers
  rw [List.map_map] at hfailures
  exact ⟨hlasts, (houtcome.trans (congrArg _ he)).trans (congrArg _ (congrArg _ hfailures))⟩

end Cluster

end Muster
