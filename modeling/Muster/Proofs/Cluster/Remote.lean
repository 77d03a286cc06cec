import Muster.Proofs.Cluster.Independence
import Muster.Proofs.Cluster.Joining
import Muster.Proofs.Document.Credential
import Muster.Proofs.Document.Status
import Muster.Proofs.Network.Mount
import Muster.Proofs.Roster.Refusal

/-! # Operations from afar

A worker that reaches the interface of its management node, and waits longer than the node's policy allows a call to
take, is told by it what the node's roster would have told itself, and what it commands comes to the same at every
engine. A failure is told by its text, without the blanks around it, behind what it was that failed. -/

namespace Muster

open Http

/-! ### Who waits -/

section
variable {α : Type} {n : Node} {r : Roster} {a b net : Network} {limit limit' : Nat}

/-- Nobody waits for a node longer than the policy allows. -/
theorem Node.relay_limit (h : n.policy.timeout.nanos ≤ limit) (net : Network) (call : Call α) :
    n.relay net limit call = n.relay net n.policy.timeout.nanos call := by
  unfold relay
  rw [Nat.min_eq_right h, Nat.min_self]

theorem Operation.callNode_limit (h : n.policy.timeout.nanos ≤ limit) (o : Operation) (net : Network) :
    o.callNode limit n net = o.callNode n.policy.timeout.nanos n net := by
  cases o with
  | mutation m =>
    cases hcall : m.call with
    | error e => rw [callNode_of_refused hcall, callNode_of_refused hcall]
    | ok call => rw [callNode_of_call hcall, callNode_of_call hcall, n.relay_limit h]
  | status name => exact n.relay_limit h net (WorkerCall.status name)
  | storages =>
    simp only [Operation.callNode, Node.storages]
    rw [n.relay_limit h net WorkerCall.storages]

theorem callEach_congr {call call' : Node → Network → Network × Reply α} {nodes : List Node}
    (h : ∀ n ∈ nodes, call n = call' n) (net : Network) : callEach call net nodes = callEach call' net nodes := by
  induction nodes generalizing net with
  | nil => rfl
  | cons n nodes ih =>
    have hrest := ih fun k hk => h k (List.mem_cons_of_mem n hk)
    simp only [callEach, h n List.mem_cons_self, hrest]

/-- Networks that agree everywhere have the same engines. -/
theorem Network.AgreeOn.engines_eq {P : String → Prop} (hP : ∀ server, P server) (h : Network.AgreeOn P a b) :
    a.engines = b.engines :=
  List.ext_getElem? fun i => h.engines i (fun server _ _ _ => hP server) fun server _ _ _ => hP server

namespace Roster

theorem Sound.calls_limit (sound : r.Sound) (h : r.policy.timeout.nanos ≤ limit) (net : Network) (o : Operation) :
    r.calls net limit o = r.calls net r.policy.timeout.nanos o := by
  have hcall : ∀ n ∈ r.memberNodes, o.callNode limit n = o.callNode r.policy.timeout.nanos n := by
    intro n hn
    obtain ⟨hpolicy, -⟩ := sound.made_member hn
    funext net
    rw [← hpolicy] at h ⊢
    exact o.callNode_limit h net
  unfold calls
  cases o.isSent with
  | false => rfl
  | true => simp only [fanOut, callEach_congr hcall]

/-- Where networks agree everywhere, an operation comes to the same in them, whoever waits for its end. -/
theorem Sound.carryOut_agree (sound : r.Sound) (hab : Network.AgreeOn (fun _ => True) a b)
    (h : r.policy.timeout.nanos ≤ limit) (h' : r.policy.timeout.nanos ≤ limit') (o : Operation) :
    (r.carryOut a limit o).1.engines = (r.carryOut b limit' o).1.engines ∧
      (r.carryOut a limit o).2.2 = (r.carryOut b limit' o).2.2 := by
  obtain ⟨hagree, hsame⟩ := calls_agree hab r r.policy.timeout.nanos o
  rw [carryOut_eq, carryOut_eq, sound.calls_limit h, sound.calls_limit h']
  refine ⟨hagree.engines_eq fun _ => trivial, congrArg o.resultOf ?_⟩
  cases hsent : o.isSent with
  | false =>
    unfold calls
    rw [hsent]
    rfl
  | true =>
    refine List.ext_getElem? fun i => ?_
    cases hn : r.memberNodes[i]? with
    | some n => exact hsame i n hn trivial
    | none =>
      have hout (net : Network) : (r.calls net r.policy.timeout.nanos o).2.2[i]? = none := by
        have hlength := congrArg List.length (r.names_calls net r.policy.timeout.nanos hsent)
        rw [List.length_map, List.length_map] at hlength
        rw [List.getElem?_eq_none_iff] at hn ⊢
        exact hlength ▸ hn
      rw [hout, hout]

theorem after_carryOut_le (r : Roster) (net : Network) (limit : Nat) (o : Operation) :
    (r.carryOut net limit o).2.1 ≤ r.policy.timeout.nanos := by
  rw [carryOut_eq]
  exact r.after_calls_le net limit o

end Roster

end

/-! ### What travels -/

namespace Mutation

/-- The command by which a worker has a mutation carried out. -/
def question : Mutation → Question Unit
  | .load name => Uplink.load name
  | .unload name => Uplink.unload name
  | .registerStorage c => Uplink.registerStorage c
  | .unregisterStorage name => Uplink.unregisterStorage name

/-- A mutation that reaches the management node as it was given: it names what stands in a path as one segment, or its
credential holds no numbers but whole ones and nests no deeper than documents may. -/
def Travels : Mutation → Prop
  | .load name => Url.IsSegment name
  | .unload name => Url.IsSegment name
  | .registerStorage c => Json.Value.haveWhole c.parameters = true ∧ c.encode.depth ≤ Json.maxDepth
  | .unregisterStorage name => Url.IsSegment name

end Mutation

/-! ### Answers -/

section
variable {α : Type} {call : Call α} {r : Response} {x : Except ClusterError α}

/-- An answer to a call tells what it was that the call asked for came to. -/
def Call.Tells (call : Call α) (r : Response) : Except ClusterError α → Prop
  | .ok a => r.isSuccess = true ∧ call.read r.onWire = .ok a
  | .error e => r = .ofError e ∧ e.isOwn = true

theorem Call.Tells.outcome (h : call.Tells r x) (url : Url) : call.outcome url (.answered r.onWire) =
    x.mapError fun e => .refused (Text.trimmed e.text) := by
  cases x with
  | ok a =>
    obtain ⟨hsuccess, hread⟩ := h
    rw [call.outcome_of_success url ((Response.isSuccess_onWire r).trans hsuccess), hread]
    rfl
  | error e =>
    obtain ⟨rfl, hown⟩ := h
    have hwire : (Response.ofError e).onWire = .ofError e := by cases e <;> rfl
    have htext : refusalText (.ofError e) = Text.trimmed e.text := if_neg (ClusterError.trimmed_text hown)
    rw [hwire, call.outcome_of_refusal url e.not_success, htext]
    rfl

/-- An answer with a document tells what the document spells out. -/
theorem Call.tells_json {read : Json.Decoder α} {v : Json.Value} {levels : Nat} {x : α}
    (hread : call.read = readBody read) (h : Json.Spells v read levels x) (hroom : levels ≤ Json.maxDepth) :
    call.Tells (.json v) (.ok x) := by
  have hwire : (Response.json v).onWire = .json v := rfl
  exact ⟨rfl, by rw [hwire, hread, readBody_json h hroom]⟩

/-- What a worker is told of the outcome of a question or a command. -/
def Question.told (q : Question α) (x : Except ClusterError α) : Except String α :=
  x.mapError fun e => chainText [q.context, Text.trimmed e.text]

end

namespace Cluster

/-- What came of a worker's call is `x`, and it has left the engines of `net` and the roster of `c`. -/
structure ComesTo {β : Type} (c : Cluster) (net : Network) (x : β) (y : Outcome β) : Prop where
  result : y.result = x
  engines : y.cluster.net.engines = net.engines
  roster : y.cluster.roster = c.roster

/-- The interface gives an answer to a call within some time, which tells `x`. It leaves the engines of `net` and the
roster of `c`. -/
structure Gives {α : Type} (c : Cluster) (call : Call α) (within : Nat) (net : Network) (x : Except ClusterError α)
    (y : Cluster × Nat × Response) : Prop where
  tells : call.Tells y.2.2 x
  time : y.2.1 < within
  engines : y.1.net.engines = net.engines
  roster : y.1.roster = c.roster

section
variable {α : Type} {c : Cluster} {u : Uplink} {call : Call α} {q : Question α} {a : Action} {found : List Char}
  {net : Network} {x : Except ClusterError α}

theorem Linked.call_comesTo (h : c.Linked u) (hasks : call.AsksFor a found)
    (hgives : ∀ o : Outgoing, o.body = call.body →
      c.Gives call u.timeout.nanos net x ((c.reached o).perform u.timeout.nanos a found o.request)) :
    c.ComesTo net (x.mapError fun e => .refused (Text.trimmed e.text)) (c.call u call) := by
  obtain ⟨o, -, hbody, -, hcall⟩ := h.call_eq hasks
  have gives := hgives o hbody
  dsimp only at hcall
  rw [if_pos gives.time, gives.tells.outcome] at hcall
  rw [hcall]
  exact ⟨rfl, gives.engines, gives.roster⟩

theorem Linked.ask_comesTo (h : c.Linked u) (hasks : q.call.AsksFor a found)
    (hgives : ∀ o : Outgoing, o.body = q.call.body →
      c.Gives q.call u.timeout.nanos net x ((c.reached o).perform u.timeout.nanos a found o.request)) :
    c.ComesTo net (q.told x) (c.ask u q) := by
  have comes := h.call_comesTo hasks hgives
  refine ⟨?_, comes.engines, comes.roster⟩
  show (c.call u q.call).result.mapError q.failure = q.told x
  rw [comes.result]
  cases x with
  | ok a => rfl
  | error e => rfl

end

/-! ### Routes -/

theorem asksFor_version : Uplink.askVersion.AsksFor .version [] :=
  .of_segments (List.cons_ne_nil _ _) (List.forall_mem_singleton.mpr (by decide)) ⟨_, rfl, rfl⟩

theorem asksFor_nodes : Uplink.askNodes.call.AsksFor .members [] :=
  .of_segments (List.cons_ne_nil _ _) (List.forall_mem_singleton.mpr (by decide)) ⟨_, rfl, rfl⟩

theorem asksFor_storages : Uplink.askStorages.call.AsksFor .storages [] :=
  .of_segments (List.cons_ne_nil _ _) (List.forall_mem_singleton.mpr (by decide)) ⟨_, rfl, rfl⟩

theorem asksFor_registerStorage (credential : Credential) :
    (Uplink.registerStorage credential).call.AsksFor .registerStorage [] :=
  .of_segments (List.cons_ne_nil _ _) (List.forall_mem_singleton.mpr (by decide)) ⟨_, rfl, rfl⟩

section
variable {name : String} (h : Url.IsSegment name)
include h

theorem isSegment_source {last : String} (hlast : Url.IsSegment last) :
    ∀ s ∈ ["data-source", name, last], Url.IsSegment s :=
  List.forall_mem_cons.mpr ⟨by decide, List.forall_mem_cons.mpr ⟨h, List.forall_mem_singleton.mpr hlast⟩⟩

theorem asksFor_status :
    (Uplink.askStatus name).call.AsksFor .status (Url.encodeSegment true name.toList) :=
  .of_segments (List.cons_ne_nil _ _) (isSegment_source h (by decide)) ⟨_, rfl, rfl⟩

theorem asksFor_load : (Uplink.load name).call.AsksFor .load (Url.encodeSegment true name.toList) :=
  .of_segments (List.cons_ne_nil _ _) (isSegment_source h (by decide)) ⟨_, rfl, rfl⟩

theorem asksFor_unload : (Uplink.unload name).call.AsksFor .unload (Url.encodeSegment true name.toList) :=
  .of_segments (List.cons_ne_nil _ _) (isSegment_source h (by decide)) ⟨_, rfl, rfl⟩

theorem asksFor_unregisterStorage :
    (Uplink.unregisterStorage name).call.AsksFor .unregisterStorage (Url.encodeSegment true name.toList) := by
  refine .of_segments (List.cons_ne_nil _ _)
    (List.forall_mem_cons.mpr ⟨by decide, List.forall_mem_singleton.mpr h⟩) ?_
  have hne : Url.encodeSegment true name.toList ≠ [] :=
    Url.encodeSegment_ne_nil true h.plain fun hnil => h.1 (String.toList_eq_nil_iff.mp hnil)
  show ∃ route, routes.findSome? (fun route =>
    (matchPieces route.path [Url.encodeSegment true "storages".toList, Url.encodeSegment true name.toList]).map
      (route, ·)) = some (route, _) ∧ route.methods.lookup "DELETE" = some Action.unregisterStorage
  -- At the end of a path a name is not empty.
  obtain ⟨first, rest, hcons⟩ := List.exists_cons_of_ne_nil hne
  rw [hcons]
  exact ⟨_, rfl, rfl⟩

end

/-! ### What the interface performs -/

theorem agreeOn_deliver (net : Network) (o : Outgoing) : Network.AgreeOn (fun _ => True) (net.deliver o) net :=
  (Network.AgreeOn.refl_of_all (fun _ => trivial) net).of_kept ⟨rfl, rfl, fun he => ⟨_, he, rfl, rfl⟩⟩ (.refl net)
    fun _ _ _ => rfl

theorem mutate_congr (r : Roster) {m m' : Mutation} (hcall : m.call = m'.call) (haction : m.action = m'.action)
    (net : Network) (limit : Nat) : r.mutate net limit m = r.mutate net limit m' := by
  cases h : m'.call with
  | error e => rw [r.mutate_eq_refused h, r.mutate_eq_refused (hcall.trans h)]
  | ok call => rw [r.mutate_eq_broadcast h, r.mutate_eq_broadcast (hcall.trans h), haction]

theorem bodyOf_credential {credential : Credential} {o : Outgoing} (ho : o.body = some credential.encode)
    (hwhole : Json.Value.haveWhole credential.parameters = true) (hdepth : credential.encode.depth ≤ Json.maxDepth) :
    bodyOf Credential.read o.request = .ok credential.settled :=
  Outgoing.bodyOf_request ho (credential.spelled hwhole) hdepth o.request.path

/-- A mutation that a worker asks for is the one that the interface has carried out. -/
theorem perform_mutation {m : Mutation} (h : m.Travels) : ∃ a found, m.question.call.AsksFor a found ∧
    ∀ (c : Cluster) (limit : Nat) (o : Outgoing), o.body = m.question.call.body →
      ∃ done, c.perform limit a found o.request = c.commandAnswer done (c.roster.mutate c.net limit m) := by
  cases m with
  | load name =>
    refine ⟨_, _, asksFor_load h, fun c limit o _ => ⟨"data source " ++ name ++ " loaded", ?_⟩⟩
    simp only [perform, nameOf_encodeSegment true h.plain]
    rfl
  | unload name =>
    refine ⟨_, _, asksFor_unload h, fun c limit o _ => ⟨"data source " ++ name ++ " unloaded", ?_⟩⟩
    simp only [perform, nameOf_encodeSegment true h.plain]
    rfl
  | unregisterStorage name =>
    refine ⟨_, _, asksFor_unregisterStorage h, fun c limit o _ => ⟨"storage " ++ name ++ " unregistered", ?_⟩⟩
    simp only [perform, nameOf_encodeSegment true h.plain]
    rfl
  | registerStorage credential =>
    obtain ⟨hwhole, hdepth⟩ := h
    refine ⟨_, _, asksFor_registerStorage credential, fun c limit o ho =>
      ⟨"storage " ++ credential.name ++ " registered", ?_⟩⟩
    have hcall : (Mutation.registerStorage credential.settled).call = (Mutation.registerStorage credential).call :=
      congrArg (·.map WorkerCall.registerStorage) credential.register_settled
    simp only [perform, bodyOf_credential ho hwhole hdepth]
    rw [← mutate_congr c.roster hcall rfl]
    rfl

theorem perform_status {name : String} (h : Url.IsSegment name) (c : Cluster) (limit : Nat) (r : Request) :
    c.perform limit .status (Url.encodeSegment true name.toList) r =
      ({ c with net := (c.roster.status c.net limit name).1 }, (c.roster.status c.net limit name).2.1,
        .json (.array ((c.roster.status c.net limit name).2.2.map SourceReport.encode))) := by
  simp only [perform, nameOf_encodeSegment true h.plain]
  rfl

theorem perform_storages (c : Cluster) (limit : Nat) (r : Request) : c.perform limit .storages [] r =
    ({ c with net := (c.roster.storages c.net limit).1 }, (c.roster.storages c.net limit).2.after,
      match (c.roster.storages c.net limit).2.outcome with
      | .ok l => .json (.array (l.map StorageEntry.encode))
      | .error e => .ofError e) := by
  simp only [perform, Cluster.after]
  cases (c.roster.storages c.net limit).2.outcome with
  | ok l => rfl
  | error e => rfl

section
variable {c : Cluster} {within limit : Nat} (sound : c.roster.Sound)
  (htime : c.roster.policy.timeout.nanos < within) (hlimit : c.roster.policy.timeout.nanos ≤ limit)
include sound htime hlimit

theorem gives_mutation {call : Call Unit} (hread : call.read = fun _ => .ok ()) (m : Mutation) (o : Outgoing)
    (done : String) :
    c.Gives call within (c.roster.mutate c.net limit m).1 (c.roster.mutate c.net limit m).2.outcome
      ((c.reached o).commandAnswer done (c.roster.mutate (c.net.deliver o) within m)) := by
  obtain ⟨hengines, hdone⟩ := sound.carryOut_agree (agreeOn_deliver c.net o) (Nat.le_of_lt htime) hlimit (.mutation m)
  have houtcome : (c.roster.mutate (c.net.deliver o) within m).2.outcome =
      (c.roster.mutate c.net limit m).2.outcome := Operation.Result.done.inj hdone
  have hafter := c.roster.after_carryOut_le (c.net.deliver o) within (.mutation m)
  refine ⟨?_, Nat.lt_of_le_of_lt hafter htime, hengines, rfl⟩
  show call.Tells (resultOf done (c.roster.mutate (c.net.deliver o) within m).2.outcome) _
  rw [houtcome]
  cases hx : (c.roster.mutate c.net limit m).2.outcome with
  | ok x => exact ⟨rfl, by rw [hread]⟩
  | error e => exact ⟨rfl, Roster.own_mutate hx⟩

theorem gives_status {name : String} (hname : Url.IsSegment name) (o : Outgoing) :
    c.Gives (Uplink.askStatus name).call within (c.roster.status c.net limit name).1
      (.ok (c.roster.status c.net limit name).2.2)
      ((c.reached o).perform within .status (Url.encodeSegment true name.toList) o.request) := by
  obtain ⟨hengines, hdone⟩ := sound.carryOut_agree (agreeOn_deliver c.net o) (Nat.le_of_lt htime) hlimit (.status name)
  have hrows : (c.roster.status (c.net.deliver o) within name).2.2 = (c.roster.status c.net limit name).2.2 :=
    Operation.Result.reports.inj hdone
  have hafter := c.roster.after_carryOut_le (c.net.deliver o) within (.status name)
  have hspelled := Json.Spells.list fun row (_ : row ∈ (c.roster.status c.net limit name).2.2) => row.spelled
  rw [perform_status hname]
  refine ⟨?_, Nat.lt_of_le_of_lt hafter htime, hengines, rfl⟩
  show (Uplink.askStatus name).call.Tells
    (.json (.array ((c.roster.status (c.net.deliver o) within name).2.2.map SourceReport.encode))) _
  rw [hrows]
  exact Call.tells_json rfl hspelled (by decide)

theorem gives_storages (o : Outgoing) :
    c.Gives Uplink.askStorages.call within (c.roster.storages c.net limit).1
      (c.roster.storages c.net limit).2.outcome ((c.reached o).perform within .storages [] o.request) := by
  obtain ⟨hengines, hdone⟩ := sound.carryOut_agree (agreeOn_deliver c.net o) (Nat.le_of_lt htime) hlimit .storages
  have houtcome : (c.roster.storages (c.net.deliver o) within).2.outcome =
      (c.roster.storages c.net limit).2.outcome := Operation.Result.entries.inj hdone
  have hafter := c.roster.after_carryOut_le (c.net.deliver o) within .storages
  rw [perform_storages]
  refine ⟨?_, Nat.lt_of_le_of_lt hafter htime, hengines, rfl⟩
  show Uplink.askStorages.call.Tells (match (c.roster.storages (c.net.deliver o) within).2.outcome with
    | .ok l => .json (.array (l.map StorageEntry.encode))
    | .error e => .ofError e) _
  rw [houtcome]
  cases hx : (c.roster.storages c.net limit).2.outcome with
  | ok l => exact Call.tells_json rfl (.list fun entry _ => entry.spelled) (by decide)
  | error e => exact ⟨rfl, Roster.own_storages hx⟩

end

section
variable {c : Cluster} {u : Uplink}

theorem Linked.versionFor_comesTo (h : c.Linked u) (htime : 0 < u.timeout.nanos) :
    c.ComesTo c.net c.roster.policy.clusterVersion (c.versionFor u) := by
  have hread (r : Response) : Uplink.askVersion.read r = (readBody VersionNotice.read r).map (·.version) := rfl
  have htells : Uplink.askVersion.Tells (.json (VersionNotice.mk c.roster.policy.clusterVersion).encode)
      (.ok c.roster.policy.clusterVersion) := by
    have hwire (v : Json.Value) : (Response.json v).onWire = .json v := rfl
    refine ⟨rfl, ?_⟩
    rw [hwire, hread, readBody_json (VersionNotice.spelled _) (by decide)]
    rfl
  have comes := h.call_comesTo asksFor_version fun o _ => ⟨htells, htime, rfl, rfl⟩
  refine ⟨?_, comes.engines, comes.roster⟩
  unfold versionFor
  dsimp only
  rw [comes.result]
  rfl

theorem Linked.nodes_comesTo (h : c.Linked u) (htime : 0 < u.timeout.nanos)
    (hyears : ∀ row ∈ c.roster.rows, Timestamp.hasYear row.lastSeen.date.year = true) :
    c.ComesTo c.net (.ok c.roster.rows) (c.ask u Uplink.askNodes) := by
  have hinstant : ∀ row ∈ c.roster.rows, row.lastSeen.IsInstant := by
    intro row hrow
    have hyear := hyears row hrow
    obtain ⟨n, -, rfl⟩ := List.mem_map.mp hrow
    exact Timestamp.isInstant_ofUnixNanos hyear
  have hread : Uplink.askNodes.call.Tells (.json (.array (c.roster.rows.map NodeStatus.encode))) (.ok c.roster.rows) :=
    Call.tells_json rfl (.list fun row hrow => NodeStatus.spelled (hinstant row hrow)) (by decide)
  exact h.ask_comesTo asksFor_nodes fun o _ => ⟨hread, htime, rfl, rfl⟩

end

/-- What a worker asks of its management node, and what it has it do, comes to what it would have come to at the node
itself: whoever reaches the interface with the right secret, and waits longer than a call may take, is told the same
version, the same members (as long as the clock shows years that points in time may lie in), the same reports and the
same storages. A command does the same to every engine, and succeeds if it would have succeeded there. A failure is told
by its text without the blanks around it, behind what it was that failed. -/
theorem remote_eq_direct (policy : Policy) (common : CommonSettings) (net₀ : Network) (es : List Event) (u : Uplink)
    (limit : Nat) (h : ((start policy common net₀).run es).Linked u)
    (htime : policy.timeout.nanos < u.timeout.nanos) (hlimit : policy.timeout.nanos ≤ limit) :
    let c := (start policy common net₀).run es
    let r := c.roster
    c.ComesTo c.net policy.clusterVersion (c.versionFor u) ∧
    ((∀ row ∈ r.rows, Timestamp.hasYear row.lastSeen.date.year = true) →
      c.ComesTo c.net (.ok r.rows) (c.ask u Uplink.askNodes)) ∧
    (∀ name, Url.IsSegment name →
      c.ComesTo (r.status c.net limit name).1 (.ok (r.status c.net limit name).2.2)
        (c.ask u (Uplink.askStatus name))) ∧
    c.ComesTo (r.storages c.net limit).1 (Uplink.askStorages.told (r.storages c.net limit).2.outcome)
      (c.ask u Uplink.askStorages) ∧
    ∀ m : Mutation, m.Travels →
      c.ComesTo (r.mutate c.net limit m).1 (m.question.told (r.mutate c.net limit m).2.outcome)
        (c.ask u m.question) := by
  intro c r
  have sound : c.roster.Sound := sound_run policy common net₀ es
  have hpolicy : c.roster.policy = policy := policy_run policy common net₀ es
  have hpositive : 0 < u.timeout.nanos := Nat.zero_lt_of_lt htime
  rw [← hpolicy] at htime hlimit
  refine ⟨hpolicy ▸ h.versionFor_comesTo hpositive, h.nodes_comesTo hpositive, fun name hname => ?_, ?_, fun m hm => ?_⟩
  · exact h.ask_comesTo (asksFor_status hname) fun o _ => gives_status sound htime hlimit hname o
  · exact h.ask_comesTo asksFor_storages fun o _ => gives_storages sound htime hlimit o
  · obtain ⟨a, found, hasks, hperform⟩ := perform_mutation hm
    refine h.ask_comesTo hasks fun o ho => ?_
    obtain ⟨done, hdone⟩ := hperform (c.reached o) u.timeout.nanos o ho
    rw [hdone]
    exact gives_mutation sound htime hlimit (by cases m <;> rfl) m o done

/-- Three hosts with a worker each, and their management node. -/
def fourHosts : Network := { threeHosts with services := ("[::1]:90", .management "secret") :: threeHosts.services }

/-- The cluster of three workers, of which two run the cluster's version and one has no room. -/
def threeAtWork : Cluster := (start hastyPolicy blankSettings fourHosts).run threeWorkers

/-- An uplink that waits longer than a call may take. -/
def patientUplink : Uplink where
  client := ⟨⟨"http".toList, some ⟨[], "[::1]".toList, some 90⟩, .segments [[]], none, none⟩, "secret"⟩
  nodeName := "one"
  nodeUrl := "http://[::1]:81/"
  version := "v1"
  timeout := ⟨2000⟩

/-- A worker has a data source loaded at all members, and is told of both that fail. -/
theorem remote_eq_direct_no_room :
    threeAtWork.Linked patientUplink ∧
    hastyPolicy.timeout.nanos < patientUplink.timeout.nanos ∧
    (threeAtWork.ask patientUplink (Uplink.load "größe")).result = .error
      ("load data source: failed to load data source größe on node two: no room;\n" ++
        "failed to load data source größe on node three: node is not ready") ∧
    (threeAtWork.ask patientUplink Uplink.askNodes).result = .ok threeAtWork.roster.rows := by
  have hlinked : threeAtWork.Linked patientUplink := ⟨rfl, ⟨"secret", rfl⟩, by decide, by decide, rfl, by decide⟩
  have htime : hastyPolicy.timeout.nanos < patientUplink.timeout.nanos := by decide
  have hyears : ∀ row ∈ threeAtWork.roster.rows, Timestamp.hasYear row.lastSeen.date.year = true := by decide +kernel
  have houtcome : (threeAtWork.roster.mutate threeAtWork.net 1000 (.load "größe")).2.outcome = .error (.broadcast
      [⟨"two", "load data source größe", "no room"⟩, ⟨"three", "load data source größe", "node is not ready"⟩]) := by
    have hverdict : (threeAtWork.roster.mutate threeAtWork.net 1000 (.load "größe")).2.outcome =
        Roster.verdict "load data source größe" (threeAtWork.roster.fanOut threeAtWork.net fun n net =>
          n.relay net 1000 (WorkerCall.load "größe")).2.2 := rfl
    rw [hverdict, told_fanOut]
    decide +kernel
  obtain ⟨-, hnodes, -, -, hmutation⟩ := remote_eq_direct hastyPolicy blankSettings fourHosts threeWorkers
    patientUplink 1000 hlinked htime (by decide)
  refine ⟨hlinked, htime, ?_, (hnodes hyears).result⟩
  have hsegment : Url.IsSegment "größe" := by decide
  have hload : (threeAtWork.ask patientUplink (Uplink.load "größe")).result =
      (Uplink.load "größe").told (threeAtWork.roster.mutate threeAtWork.net 1000 (.load "größe")).2.outcome :=
    (hmutation (.load "größe") hsegment).result
  rw [hload, houtcome]
  decide +kernel

end Cluster

end Muster
