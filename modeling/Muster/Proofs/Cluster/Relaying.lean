import Muster.Proofs.Cluster.Remote
import Muster.Proofs.Cluster.Sweep

/-! # Relaying credentials

A credential that breaks a rule is refused before anybody is asked. The registration of any other goes to each member that
is ready, once, and a worker that serves its routes right below the address of such a member takes that very registration,
provided that the secret is one that a request can present. It does not matter whether the credential is given to the
roster or submitted to the interface. -/

namespace Muster

open Worker Http

variable {α : Type}

/-! ### What arrives -/

/-- The request of a call as it arrives, if it can be sent and somebody is at its host. -/
def Client.delivers (client : Client) (net : Network) (call : Call α) : Option Arrived :=
  match client.request call with
  | .error _ => none
  | .ok o => if (net.serviceOf o).isSome then some ⟨o.url.server, o.request⟩ else none

section
variable {a b net : Network} {call : Call α} {limit : Nat}

theorem callEach_cons (call : Node → Network → Network × Reply α) (net : Network) (n : Node) (nodes : List Node) :
    (callEach call net (n :: nodes)).1 = (callEach call (call n net).1 nodes).1 := rfl

theorem Network.Kept.serviceOf (h : a.Kept b) (o : Outgoing) : b.serviceOf o = a.serviceOf o := by
  rw [Network.serviceOf, Network.serviceOf, h.connected, h.services]

theorem Network.Kept.delivers (h : a.Kept b) (client : Client) (call : Call α) :
    client.delivers b call = client.delivers a call := by
  unfold Client.delivers
  simp only [h.serviceOf]

theorem Node.arrived_relay (n : Node) (net : Network) (limit : Nat) (call : Call α) :
    (n.relay net limit call).1.arrived =
      net.arrived ++ if n.isReady then (n.client.delivers net call).toList else [] := by
  unfold Client.delivers
  cases hready : n.isReady with
  | false =>
    rw [relay_not_ready hready]
    exact (List.append_nil _).symm
  | true =>
    cases ho : n.client.request call with
    | error e =>
      rw [relay_unsent hready ho]
      exact (List.append_nil _).symm
    | ok o =>
      rw [relay_sent hready ho]
      show (net.send _ o).1.arrived = _
      rw [Network.arrived_send]
      cases hservice : (net.serviceOf o).isSome <;> simp [hservice]

/-- Of calls to nodes one after another each that is ready is sent its own request, and nothing else arrives. -/
theorem arrived_callEach (call : Call α) (limit : Nat) (net : Network) (nodes : List Node) :
    (callEach (fun n net => n.relay net limit call) net nodes).1.arrived =
      net.arrived ++ (nodes.filter (·.isReady)).filterMap fun n => n.client.delivers net call := by
  induction nodes generalizing net with
  | nil => exact (List.append_nil _).symm
  | cons n nodes ih =>
    have kept := n.kept_relay net limit call
    rw [callEach_cons, ih, n.arrived_relay, List.append_assoc]
    simp only [kept.delivers]
    cases hready : n.isReady with
    | false =>
      rw [List.filter_cons_of_neg (by simp [hready])]
      rfl
    | true =>
      rw [List.filter_cons_of_pos hready, List.filterMap_cons]
      cases n.client.delivers net call <;> rfl

end

/-! ### What engines take -/

section
variable {net : Network} {i : Nat} {e : Engine}

theorem Node.engines_register {n : Node} (husable : Usable n.client.secret) (he : net.engines[i]? = some e)
    (d : Registration) (limit : Nat) :
    (n.relay net limit (WorkerCall.registerStorage d)).1.engines[i]? =
      some (if n.isReady && net.mounts n.client.base n.client.secret i then
        e.registering d (min limit n.policy.timeout.nanos) else e) := by
  cases hready : n.isReady with
  | false =>
    rw [relay_not_ready hready, Bool.false_and]
    exact he
  | true =>
    rw [Bool.true_and]
    cases ho : n.client.request (WorkerCall.registerStorage d) with
    | error error =>
      have hmounts : ¬ net.mounts n.client.base n.client.secret i = true := by
        intro hmounts
        obtain ⟨-, htakes, -⟩ := Network.mounts_iff.mp hmounts
        obtain ⟨o, hsent⟩ := n.client.request_of_takes (WorkerCall.registerStorage d) htakes
        cases ho.symm.trans hsent
      rw [relay_unsent hready ho, if_neg hmounts]
      exact he
    | ok o =>
      rw [relay_sent hready ho]
      exact Network.engines_register ho husable he _

/-- Of calls to nodes one after another each engine takes those to the nodes that are ready and that it serves. -/
theorem engines_callEach {secret : String} {timeout : Duration} {nodes : List Node} (husable : Usable secret)
    (hnodes : ∀ n ∈ nodes, n.client.secret = secret ∧ n.policy.timeout = timeout) (he : net.engines[i]? = some e)
    (d : Registration) (limit : Nat) :
    (callEach (fun n net => n.relay net limit (WorkerCall.registerStorage d)) net nodes).1.engines[i]? =
      some ((Engine.registering d (min limit timeout.nanos))^[
        ((nodes.filter (·.isReady)).filter fun n => net.mounts n.client.base secret i).length] e) := by
  induction nodes generalizing net e with
  | nil => exact he
  | cons n nodes ih =>
    obtain ⟨rfl, rfl⟩ := hnodes n List.mem_cons_self
    have kept := n.kept_relay net limit (WorkerCall.registerStorage d)
    have hmounts := Network.mounts_congr kept.connected kept.services
    have htaken := Node.engines_register husable he d limit
    rw [callEach_cons, ih (fun k hk => hnodes k (List.mem_cons_of_mem n hk)) htaken]
    simp only [hmounts]
    cases hready : n.isReady with
    | false =>
      rw [List.filter_cons_of_neg (by simp [hready]), Bool.false_and, if_neg Bool.false_ne_true]
    | true =>
      rw [List.filter_cons_of_pos hready, Bool.true_and, List.filter_cons]
      by_cases hserved : net.mounts n.client.base n.client.secret i = true
      · rw [if_pos hserved, if_pos hserved, List.length_cons, Function.iterate_succ_apply]
      · rw [if_neg hserved, if_neg hserved]

end

/-! ### Members -/

/-- What has become of a network in which the members of a roster were sent a registration, with a secret. -/
structure Roster.Relayed (r : Roster) (secret : String) (d : Registration) (within : Nat) (a b : Network) : Prop where
  /-- For each member that is ready its own request has arrived, in order, if somebody was at its host, and nothing else
  has. -/
  arrived : b.arrived = a.arrived ++
    r.readyNodes.filterMap fun n => n.client.delivers a (WorkerCall.registerStorage d)
  /-- One that a worker serves was sent the registration itself, to its own host. -/
  sent : ∀ n ∈ r.readyNodes, ∀ i, a.mounts n.client.base secret i = true → ∃ o,
    n.client.request (WorkerCall.registerStorage d) = .ok o ∧
    n.client.delivers a (WorkerCall.registerStorage d) = some ⟨n.client.base.server, o.request⟩ ∧
    o.request.method = "POST" ∧ bodyOf Registration.read o.request = .ok d
  /-- Each engine has taken the registration once for each of these members that it serves, and nothing else. -/
  engines : ∀ i e, a.engines[i]? = some e → b.engines[i]? = some ((Engine.registering d within)^[
    (r.readyNodes.filter fun n => a.mounts n.client.base secret i).length] e)
  /-- So the engine that serves one of them alone has taken it once. -/
  once : ∀ n ∈ r.readyNodes, ∀ i e, a.mounts n.client.base secret i = true → a.engines[i]? = some e →
    (∀ k ∈ r.readyNodes, a.mounts k.client.base secret i = true → k = n) →
    b.engines[i]? = some (e.registering d within)

theorem Client.delivers_register {client : Client} {net : Network} {d : Registration} {i : Nat}
    (h : net.mounts client.base client.secret i = true) : ∃ o,
      client.request (WorkerCall.registerStorage d) = .ok o ∧
      client.delivers net (WorkerCall.registerStorage d) = some ⟨client.base.server, o.request⟩ ∧
      o.request.method = "POST" ∧ bodyOf Registration.read o.request = .ok d := by
  obtain ⟨hconnected, htakes, mount, hlookup, -⟩ := Network.mounts_iff.mp h
  obtain ⟨o, ho⟩ := client.request_of_takes (WorkerCall.registerStorage d) htakes
  have hserver := server_of_request ho
  have hservice : (net.serviceOf o).isSome = true := by
    rw [Network.serviceOf, if_pos hconnected, hserver, hlookup]
    rfl
  refine ⟨o, ho, ?_, method_of_request ho, ?_⟩
  · unfold delivers
    rw [ho]
    dsimp only
    rw [if_pos hservice, hserver]
  · have hbody : o.body = some d.encode := by
      obtain ⟨u, -, rfl⟩ := request_eq_ok ho
      rfl
    exact Outgoing.bodyOf_request hbody d.spelled (by decide) o.request.path

/-- Of nodes among which only one has a property there is one that has it. -/
theorem length_filter_of_unique {nodes : List Node} {p : Node → Bool} {n : Node} (hnodup : nodes.Nodup) (hn : n ∈ nodes)
    (hp : p n = true) (hunique : ∀ k ∈ nodes, p k = true → k = n) : (nodes.filter p).length = 1 := by
  have hfilter : nodes.filter p = nodes.filter (· == n) := by
    refine List.filter_congr fun k hk => ?_
    by_cases hkn : k = n
    · rw [hkn, hp, beq_self_eq_true]
    · have hnot : p k = false := Bool.eq_false_iff.mpr fun h => hkn (hunique k hk h)
      rw [hnot, beq_false_of_ne hkn]
  rw [hfilter, ← List.countP_eq_length_filter]
  exact List.count_eq_one_of_mem hnodup hn

namespace Roster

variable {r : Roster} {net : Network} {limit : Nat} {c : Credential} {d : Registration}

theorem Sound.relayed (h : r.Sound) (husable : Usable r.policy.secret) (hregister : c.register = .ok d) :
    r.Relayed r.policy.secret d (min limit r.policy.timeout.nanos) net (r.registerStorage net limit c).1 := by
  have hmade : ∀ n ∈ r.memberNodes, n.client.secret = r.policy.secret ∧ n.policy.timeout = r.policy.timeout := by
    intro n hn
    obtain ⟨hpolicy, hclient⟩ := h.made_member hn
    exact ⟨Client.secret_of_make hclient, congrArg Policy.timeout hpolicy⟩
  have hcall : (Mutation.registerStorage c).call = .ok (WorkerCall.registerStorage d) := by
    rw [Mutation.call, hregister]
    rfl
  have hafter : (r.registerStorage net limit c).1 =
      (callEach (fun n net => n.relay net limit (WorkerCall.registerStorage d)) net r.memberNodes).1 :=
    mutate_fst hcall r net limit
  rw [hafter]
  have hengines (i : Nat) (e : Engine) (he : net.engines[i]? = some e) :=
    engines_callEach husable hmade he d limit
  refine ⟨arrived_callEach _ limit net r.memberNodes, fun n hn i hmounts => ?_, hengines, ?_⟩
  · rw [← (hmade n (mem_readyNodes.mp hn).1).1] at hmounts
    exact Client.delivers_register hmounts
  · intro n hn i e hmounts he hunique
    have hnodup : r.readyNodes.Nodup := h.nodup_name.of_map.filter _
    have hone := length_filter_of_unique hnodup hn hmounts hunique
    have hi := hengines i e he
    rw [show (r.memberNodes.filter (·.isReady)) = r.readyNodes from rfl, hone, Function.iterate_one] at hi
    exact hi

theorem registerStorage_refused {e : ClusterError} (h : c.register = .error e) (r : Roster) (net : Network) (limit : Nat) :
    r.registerStorage net limit c = (net, ⟨0, .error e⟩) ∧ ∀ failures, e ≠ .broadcast failures := by
  refine ⟨?_, fun failures => ?_⟩
  · unfold registerStorage
    rw [h]
  · rcases Credential.register_eq_error h with rfl | rfl | ⟨key, rfl | rfl⟩ <;> exact ClusterError.noConfusion

end Roster

/-! ### Submission -/

/-- A request submits a credential to the interface of a management node, with a secret. -/
structure Http.Request.Submits (r : Request) (c : Credential) (secret : String) : Prop where
  method : r.method = "POST"
  path : r.path = "/storages".toList
  type : ∃ type, r.header? "content-type" = some type ∧ isJsonType type.toList = true
  body : r.body = c.encode.text
  presents : r.Presents secret

namespace Cluster

/-- A credential that is submitted is given to the roster. -/
theorem serve_register {s : Cluster} {request : Request} {c : Credential} (limit : Nat)
    (hsubmits : request.Submits c s.roster.policy.secret) (htravels : (Mutation.registerStorage c).Travels) :
    let x := s.roster.registerStorage s.net limit c
    s.serve limit request =
      ({ s with net := x.1 }, x.2.after, resultOf ("storage " ++ c.name ++ " registered") x.2.outcome) := by
  obtain ⟨type, htype, hjson⟩ := hsubmits.type
  obtain ⟨hwhole, hdepth⟩ := htravels
  have hdispatch : dispatch s.roster.policy.secret routes request = .ok ⟨.registerStorage, [], false⟩ :=
    dispatch_of_pieces (carries_iff.mpr hsubmits.presents) hsubmits.path rfl (by rw [hsubmits.method]; rfl)
  have hbody : bodyOf Credential.read request = .ok c.settled :=
    bodyOf_spelled htype hjson hsubmits.body (c.spelled hwhole) hdepth
  have hcall : (Mutation.registerStorage c.settled).call = (Mutation.registerStorage c).call :=
    congrArg (·.map WorkerCall.registerStorage) c.register_settled
  have hsame : s.roster.registerStorage s.net limit c.settled = s.roster.registerStorage s.net limit c :=
    mutate_congr s.roster hcall rfl s.net limit
  unfold serve
  rw [hdispatch]
  simp only [perform, hbody, hsame]
  rfl

/-- A credential that is given to a cluster in any state it can reach, in any network. If it breaks a rule, that very
error comes of it, which is no report of members, and nothing is sent. Otherwise its registration goes to each member that
is ready, and to no other; as far as workers with the secret serve their routes right below the addresses of these
members, each of their engines takes exactly that registration, once for each member. All of it is the same if the
document of the credential is submitted to the interface with the secret. The secret has to be one that a request can
present. -/
theorem register_relayed (policy : Policy) (common : CommonSettings) (net₀ : Network) (es : List Event) (net : Network)
    (limit : Nat) (c : Credential) (husable : Usable policy.secret) :
    let s : Cluster := { (start policy common net₀).run es with net := net }
    let r := ((start policy common net₀).run es).roster
    let x := r.registerStorage net limit c
    (∀ e, c.register = .error e → x = (net, ⟨0, .error e⟩) ∧ ∀ failures, e ≠ .broadcast failures) ∧
    (∀ d, c.register = .ok d → r.Relayed policy.secret d (min limit policy.timeout.nanos) net x.1) ∧
    ((Mutation.registerStorage c).Travels → ∀ request : Request, request.Submits c policy.secret →
      s.serve limit request =
        ({ s with net := x.1 }, x.2.after, resultOf ("storage " ++ c.name ++ " registered") x.2.outcome)) := by
  intro s r x
  have sound : r.Sound := sound_run policy common net₀ es
  have hpolicy : r.policy = policy := policy_run policy common net₀ es
  rw [← hpolicy] at husable ⊢
  exact ⟨fun e he => Roster.registerStorage_refused he r net limit, fun d hd => sound.relayed husable hd,
    fun htravels request hsubmits => serve_register (s := s) limit hsubmits htravels⟩

/-- Of three workers the two that are ready take a registration once each, the one that has no room for data sources too. -/
theorem register_relayed_three :
    let after := (threeMembers.registerStorage threeHosts 2000 (Credential.withFlag "s3" (.bool true))).1
    let registering := Engine.registering (Credential.lakeRegistration "s3" true) (min 2000 hastyPolicy.timeout.nanos)
    Usable hastyPolicy.secret ∧
    after.engines[0]? = some (registering (freshEngine [])) ∧
    after.engines[1]? = some (registering (freshEngine [("load", ["no room"])])) ∧
    after.engines[2]? = some (freshEngine []) := by
  intro after registering
  have husable : Usable hastyPolicy.secret := by decide
  have hregister : (Credential.withFlag "s3" (.bool true)).register = .ok (Credential.lakeRegistration "s3" true) := rfl
  have hrelayed : threeMembers.Relayed hastyPolicy.secret (Credential.lakeRegistration "s3" true)
      (min 2000 hastyPolicy.timeout.nanos) threeHosts after :=
    (register_relayed hastyPolicy blankSettings twoHosts threeWorkers threeHosts 2000
      (Credential.withFlag "s3" (.bool true)) husable).2.1 _ hregister
  have taken {i k : Nat} {e : Engine} (he : threeHosts.engines[i]? = some e)
      (hk : (threeMembers.readyNodes.filter fun n => threeHosts.mounts n.client.base hastyPolicy.secret i).length = k) :
      after.engines[i]? = some (registering^[k] e) := by
    rw [← hk]
    exact hrelayed.engines i e he
  have one : (threeMembers.readyNodes.filter fun n =>
      threeHosts.mounts n.client.base hastyPolicy.secret 0).length = 1 := by decide +kernel
  have two : (threeMembers.readyNodes.filter fun n =>
      threeHosts.mounts n.client.base hastyPolicy.secret 1).length = 1 := by decide +kernel
  have three : (threeMembers.readyNodes.filter fun n =>
      threeHosts.mounts n.client.base hastyPolicy.secret 2).length = 0 := by decide +kernel
  have first := taken (e := freshEngine []) rfl one
  have second := taken (e := freshEngine [("load", ["no room"])]) rfl two
  have third := taken (e := freshEngine []) rfl three
  rw [Function.iterate_one] at first second
  exact ⟨husable, first, second, third⟩

/-- The request that submits a credential with a secret. -/
def submission (c : Credential) (secret : String) : Request where
  method := "POST"
  path := "/storages".toList
  query := none
  headers := [(Settings.secretHeader, secret), ("content-type", jsonText)]
  body := c.encode.text

/-- A cluster of one worker, both of which have a secret that is no ASCII. -/
def accented : Cluster :=
  let net : Network := { threeHosts with services := [("[::1]:81", .worker "" "clé" 0)] }
  (start { hastyPolicy with secret := "clé" } blankSettings net).run (threeWorkers.take 1)

/-- Where the secret is no ASCII, a worker that is ready and served with it takes nothing of a registration, and whoever
submits a credential with it is turned away instead of being told which rule it breaks. -/
theorem register_accented :
    (Credential.withFlag "s3" (.bool true)).register = .ok (Credential.lakeRegistration "s3" true) ∧
    (accented.roster.readyNodes.filter fun n => accented.net.mounts n.client.base "clé" 0).length = 1 ∧
    (accented.roster.registerStorage accented.net 2000 (Credential.withFlag "s3" (.bool true))).1.engines.map (·.calls) =
      [[], [], []] ∧
    { Credential.withFlag "s3" (.bool true) with name := "" }.register = .error (.missingArgument "name") ∧
    (accented.serve 2000 (submission { Credential.withFlag "s3" (.bool true) with name := "" } "clé")).2.2.status = 403 := by
  refine ⟨rfl, ?_, ?_, rfl, ?_⟩
  · decide +kernel
  · decide +kernel
  · decide +kernel

end Cluster

end Muster
