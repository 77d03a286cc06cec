import Muster.Proofs.Cluster.Broadcast
import Muster.Proofs.Network.Secret
import Muster.Proofs.Node.Taken

/-! # Withdrawing storages

What the members have registered they can be made to unregister. A worker that takes the request with a storage takes
the one without it too: it comes with the same secret, and its path is the same with the name behind it. -/

namespace Muster

open Worker

/-! ### Requests -/

theorem belowMount_append {mount : String} {path p : List Char} (h : belowMount mount path = some ('/' :: p))
    (hp : p ≠ []) (s : List Char) : belowMount mount (path ++ s) = some ('/' :: (p ++ s)) := by
  refine belowMount_eq_some_iff.mpr ?_
  rcases belowMount_eq_some_iff.mp h with ⟨hmount, rfl⟩ | ⟨hmount, r, rfl, ⟨-, hroot⟩ | ⟨rfl, -⟩⟩
  · exact Or.inl ⟨hmount, rfl⟩
  · exact absurd (List.cons.inj hroot).2 hp
  · exact Or.inr ⟨hmount, _, List.append_assoc .., Or.inr ⟨rfl, _, rfl⟩⟩

namespace Worker

/-- A request that carries the secret and names a storage below the storages is the command to unregister it. -/
theorem handle_unregister {secret : String} {r : Http.Request} {p found : List Char} {name : String}
    (hcarries : Http.carries secret r = true) (hmethod : r.method = "DELETE") (hpath : r.path = '/' :: p)
    (hpieces : Text.split '/' p = ["cluster".toList, "storages".toList, found]) (hfound : found ≠ [])
    (hname : Http.nameOf found = .ok name) : handle secret r = .command (.unregisterStorage name) false := by
  have hroute : routes.findSome? (fun route => (Http.matchPieces route.path (Text.split '/' p)).map (route, ·)) =
      some (⟨[.fixed "cluster", .fixed "storages", .name], [("DELETE", .unregisterStorage)]⟩, found) := by
    rw [hpieces]
    cases found with
    | nil => exact absurd rfl hfound
    | cons x found => rfl
  have hdispatch : Http.dispatch secret routes r = .ok ⟨.unregisterStorage, found, false⟩ :=
    Http.dispatch_of_pieces hcarries hpath hroute (by rw [hmethod]; rfl)
  have hcommand : commandOf .unregisterStorage found r = .ok (.unregisterStorage name) := by
    show (Http.nameOf found).map Command.unregisterStorage = _
    rw [hname]
    rfl
  simp only [handle, hdispatch, hcommand]

end Worker

theorem Outgoing.carries_of_carries {o o' : Outgoing} {secret : String} {path : List Char}
    (h : Http.carries secret { o.request with path := path } = true) (path' : List Char)
    (hsecret : o'.secret = o.secret) : Http.carries secret { o'.request with path := path' } = true := by
  rw [Http.carries_iff] at h ⊢
  refine ⟨?_, h.2⟩
  show o'.request.headers.lookup Settings.secretHeader = some secret
  rw [o'.lookup_secret, hsecret, ← o.lookup_secret]
  exact h.1

/-- A worker that takes the request to register a storage takes the one to unregister it. -/
theorem Client.taken_back {client : Client} {registration : Registration} {name : String} {o o' : Outgoing}
    {mount secret : String} {path : List Char} {d : Command} {headOnly : Bool}
    (ho : client.request (WorkerCall.registerStorage registration) = .ok o)
    (ho' : client.request (WorkerCall.unregisterStorage name) = .ok o')
    (hmount : belowMount mount o.request.path = some path)
    (hhandle : handle secret { o.request with path := path } = .command d headOnly) (hne : name ≠ "")
    (hplain : ∀ x ∈ name.toList, Url.isIgnored x = false) (hpoints : Url.isPoints name.toList = false) :
    ∃ path', belowMount mount o'.request.path = some path' ∧
      handle secret { o'.request with path := path' } = .command (.unregisterStorage name) false := by
  have table : ∀ route ∈ routes, ∀ y ∈ route.methods, y.2 = .registerStorage →
      route.path = [.fixed "cluster", .fixed "storages"] := by decide
  have hmethod := (WorkerCall.registerStorage_commands registration).becomes ho hmount hhandle
  obtain ⟨route, hroute, ⟨y, hy, hya⟩, p, found, hpath, hpieces, -⟩ :=
    split_of_handle (a := .registerStorage) hhandle hmethod
  obtain rfl : path = '/' :: p := hpath
  rw [table route hroute y hy hya] at hpieces
  have hp : p ≠ [] := by
    rintro rfl
    cases hpieces
  obtain ⟨u, hu, rfl⟩ := request_eq_ok ho
  obtain ⟨u', hu', rfl⟩ := request_eq_ok ho'
  -- The path of the second request is that of the first with the name behind it.
  have hfixed : ∀ s ∈ ["cluster".toList, "storages".toList], ∀ x ∈ s, Url.isIgnored x = false :=
    List.forall_mem_cons.mpr
      ⟨Url.plain_of_all (by decide), List.forall_mem_singleton.mpr (Url.plain_of_all (by decide))⟩
  obtain ⟨w, hw, hlonger⟩ := Url.join?_snoc (s := name.toList) hu (by decide) (by decide) hfixed hpoints hplain
  obtain rfl : w = u' := Option.some.inj (hw.symm.trans hu')
  have hbelow := belowMount_append hmount hp ('/' :: Url.encodeSegment (Url.isSpecial client.base.scheme) name.toList)
  have hslash := Url.slash_not_mem_encodeSegment (Url.isSpecial client.base.scheme) name.toList
  have hencoded := Url.encodeSegment_ne_nil (Url.isSpecial client.base.scheme) hplain
    (fun h => hne (String.toList_eq_nil_iff.mp h))
  refine ⟨_, (congrArg (belowMount mount) hlonger).trans hbelow, ?_⟩
  refine handle_unregister ?_ rfl rfl ?_ hencoded (nameOf_encodeSegment _ hplain)
  · exact Outgoing.carries_of_carries (handle_eq_command hhandle).1 _ rfl
  · rw [Text.split_append, Text.split_of_not_mem hslash, hpieces]
    rfl

/-- A node whose worker has registered a storage takes the command to unregister it. -/
theorem Node.takes_back {n : Node} {net : Network} {limit i : Nat} {registration : Registration} {name : String}
    (hserving : net.serving n.client.base = some i)
    (h : (n.relay net limit (WorkerCall.registerStorage registration)).2.outcome = .ok ()) (hne : name ≠ "")
    (hplain : ∀ x ∈ name.toList, Url.isIgnored x = false) (hpoints : Url.isPoints name.toList = false) :
    ∃ o, n.Takes net (WorkerCall.unregisterStorage name) (.unregisterStorage name) o i := by
  obtain ⟨hready, o, answer, ho, -, hreply, hsuccess, -⟩ := relay_eq_ok h
  obtain ⟨mount, secret, path, d, headOnly, hlookup, hmount, hhandle⟩ :=
    Network.command_of_reply hserving (Client.server_of_request ho) hreply hsuccess
  obtain ⟨hconnected, htakes, -⟩ := Network.serving_eq_some hserving
  obtain ⟨o', ho'⟩ := n.client.request_of_takes (WorkerCall.unregisterStorage name) htakes
  obtain ⟨path', hmount', hhandle'⟩ := Client.taken_back ho ho' hmount hhandle hne hplain hpoints
  refine ⟨o', hready, ho', hserving, mount, secret, path', ?_, hmount', hhandle'⟩
  rw [Network.serviceOf, if_pos hconnected, Client.server_of_request ho', hlookup]

/-! ### Members -/

theorem Node.Takes.obeys {call : Call Unit} {n : Node} {net : Network} {c : Command} {o : Outgoing} {i within : Nat}
    {e : Engine} (h : n.Takes net call c o i) (he : net.engines[i]? = some e) (hwilling : e.Willing c within)
    (hc : c.asks = false) : n.Obeys net within call := by
  have hdone : (e.finish c).2 = .done := by rw [Engine.answer_of_change hc, hwilling.succeeds]
  obtain ⟨message, hrespond⟩ : ∃ message, respond c .done = resultOf message .done := by
    cases c with
    | load name => exact ⟨"data source " ++ name ++ " loaded", rfl⟩
    | unload name => exact ⟨"data source " ++ name ++ " unloaded", rfl⟩
    | registerStorage r => exact ⟨"storage " ++ r.name ++ " registered", rfl⟩
    | unregisterStorage name => exact ⟨"storage " ++ name ++ " unregistered", rfl⟩
    | version | status | storages => cases hc
  have hreply := h.reply_eq he
  rw [hdone] at hreply
  have hanswer : (net.reply o).2 = .answered (.json (CommandResult.ok message).encode) := by
    rw [hreply]
    show Exchange.answered (respond c .done).onWire = _
    rw [hrespond]
    rfl
  have hdecode : Json.decode CommandResult.read (Http.Response.json (CommandResult.ok message).encode).body =
      .ok (CommandResult.ok message) := (CommandResult.spelled (.ok message)).decode (by decide)
  exact (obeys_iff h.ready h.request).mpr
    ⟨by rw [hreply]; exact hwilling.quick, _, _, hanswer, rfl, hdecode, rfl⟩

section
variable {name : String} {net : Network} {nodes : List Node} {limit : Nat}

/-- Nodes whose workers take the command to unregister a storage, and carry it out in time, lack the storage. -/
theorem lacks_callEach (hmeans : (WorkerCall.unregisterStorage name).Means (.unregisterStorage name))
    (h : ∀ n ∈ nodes, ∃ o i e, n.Takes net (WorkerCall.unregisterStorage name) (.unregisterStorage name) o i ∧
      net.engines[i]? = some e ∧ e.Willing (.unregisterStorage name) (min limit n.policy.timeout.nanos)) :
    ∀ n ∈ nodes, ∃ i e, net.serving n.client.base = some i ∧
      (callEach (fun n net => n.relay net limit (WorkerCall.unregisterStorage name)) net nodes).1.engines[i]? = some e ∧
      e.Lacks name := by
  induction nodes generalizing net with
  | nil => exact fun n hn => by cases hn
  | cons k nodes ih =>
    intro n hn
    rcases List.mem_cons.mp hn with rfl | hn
    · obtain ⟨o, i, e, htakes, he, hwilling⟩ := h n List.mem_cons_self
      have hafter : (n.relay net limit (WorkerCall.unregisterStorage name)).1.engines[i]? =
          some ((e.begin (.unregisterStorage name)).finish (.unregisterStorage name)).1 := by
        rw [htakes.engines_relay he hwilling, List.getElem?_modify_eq, he]
        rfl
      -- The other calls are the same command, which takes no storage back.
      obtain ⟨e', he', htook⟩ := (heard_callEach hmeans limit _ nodes).each hafter
      exact ⟨i, e', htakes.serving, he', htook.lacks (Engine.lacks_finish hwilling.succeeds)⟩
    · have kept := k.kept_relay net limit (WorkerCall.unregisterStorage name)
      obtain ⟨i, e, hi, hrest⟩ := ih (fun m hm => by
        obtain ⟨o, i, e, htakes, he, hwilling⟩ := h m (List.mem_cons_of_mem k hm)
        obtain ⟨e', he', hfail, hdelay⟩ := kept.tables he
        exact ⟨o, i, e', htakes.kept kept, he', hwilling.kept hfail hdelay⟩) n hn
      exact ⟨i, e, (Network.serving_congr kept.connected kept.services _).symm.trans hi, hrest⟩

end

/-- A mutation succeeds if and only if every member's own call is told as a success. -/
theorem Roster.mutate_eq_ok_iff (r : Roster) (net : Network) (limit : Nat) {m : Mutation} {call : Call Unit}
    (hcall : m.call = .ok call) : (r.mutate net limit m).2.outcome = .ok () ↔
      ∀ n ∈ r.memberNodes, ((n.relay net limit call).2.told r.policy.timeout).isOk = true := by
  rw [outcome_mutate_eq hcall, verdict_eq_ok_iff]
  exact List.forall_mem_map

theorem Roster.registerStorage_eq_mutate (r : Roster) (net : Network) (limit : Nat) (c : Credential) :
    r.registerStorage net limit c = r.mutate net limit (.registerStorage c) := rfl

theorem Roster.unregisterStorage_eq_mutate (r : Roster) (net : Network) (limit : Nat) (name : String) :
    r.unregisterStorage net limit name = r.mutate net limit (.unregisterStorage name) := rfl

theorem Credential.name_ne_empty {c : Credential} {registration : Registration} (h : c.register = .ok registration) :
    c.name ≠ "" := by
  intro hempty
  unfold register at h
  rw [if_pos hempty] at h
  cases h

theorem Roster.Sound.unregister {r : Roster} (h : r.Sound) {net : Network} {limit : Nat} {name : String}
    (htakes : ∀ n ∈ r.memberNodes, ∃ o i e,
      n.Takes net (WorkerCall.unregisterStorage name) (.unregisterStorage name) o i ∧ net.engines[i]? = some e ∧
        e.Willing (.unregisterStorage name) (min limit r.policy.timeout.nanos))
    (hplain : ∀ x ∈ name.toList, Url.isIgnored x = false) :
    (r.unregisterStorage net limit name).2.outcome = .ok () ∧
    ∀ n ∈ r.memberNodes, ∃ i e, (r.unregisterStorage net limit name).1.serving n.client.base = some i ∧
      (r.unregisterStorage net limit name).1.engines[i]? = some e ∧ e.Lacks name := by
  have hpolicy (n : Node) (hn : n ∈ r.memberNodes) : n.policy = r.policy :=
    (h.made_member hn).1
  have hlasts : ∀ n ∈ r.memberNodes,
      n.lasts net (WorkerCall.unregisterStorage name) ≠ r.policy.timeout.nanos := by
    intro n hn
    obtain ⟨o, i, e, htakes, he, hwilling⟩ := htakes n hn
    rw [Node.lasts, if_pos htakes.ready, htakes.request]
    dsimp only
    rw [htakes.reply_eq he]
    exact Nat.ne_of_lt (Nat.lt_of_lt_of_le hwilling.quick (Nat.min_le_right ..))
  have hobey : (r.memberNodes.filter fun n =>
      ¬ n.Obeys net (min limit r.policy.timeout.nanos) (WorkerCall.unregisterStorage name)) = [] := by
    refine List.filter_eq_nil_iff.mpr fun n hn => ?_
    obtain ⟨o, i, e, htakes, he, hwilling⟩ := htakes n hn
    simpa using htakes.obeys he hwilling rfl
  have houtcome := h.outcome_mutate (m := .unregisterStorage name) limit rfl hlasts
  dsimp only at houtcome
  rw [hobey] at houtcome
  have hafter : (r.unregisterStorage net limit name).1 =
      (callEach (fun n net => n.relay net limit (WorkerCall.unregisterStorage name)) net r.memberNodes).1 :=
    mutate_fst (m := .unregisterStorage name) rfl r net limit
  have kept := kept_callEach (WorkerCall.unregisterStorage name) limit net r.memberNodes
  refine ⟨houtcome, fun n hn => ?_⟩
  obtain ⟨i, e, hi, hrest⟩ := lacks_callEach (WorkerCall.unregisterStorage_means hplain)
    (fun n hn => hpolicy n hn ▸ htakes n hn) n hn
  rw [hafter]
  exact ⟨i, e, (Network.serving_congr kept.connected kept.services _).trans hi, hrest⟩

namespace Cluster

/-- What all members of a cluster have registered they unregister: in any state that the cluster can reach, in any
network in which each member is served by a worker whose engine does not fail the command and is done with it in
time. The name is one that a path carries: nothing in it is ignored there, it does not consist of one or two points, and
it is assumed not to make an address that is too long to be sent. -/
theorem unregister_registered (policy : Policy) (common : CommonSettings) (net₀ : Network) (es : List Event)
    (net : Network) (limit limit' : Nat) (c : Credential)
    (hserved : ∀ n ∈ ((start policy common net₀).run es).roster.memberNodes, ∃ i e,
      net.serving n.client.base = some i ∧ net.engines[i]? = some e ∧
        e.Willing (.unregisterStorage c.name) (min limit' policy.timeout.nanos))
    (hregistered : (((start policy common net₀).run es).roster.registerStorage net limit c).2.outcome = .ok ())
    (hplain : ∀ x ∈ c.name.toList, Url.isIgnored x = false) (hpoints : Url.isPoints c.name.toList = false) :
    let r := ((start policy common net₀).run es).roster
    let registered := (r.registerStorage net limit c).1
    let after := (r.unregisterStorage registered limit' c.name).1
    (r.unregisterStorage registered limit' c.name).2.outcome = .ok () ∧
    ∀ n ∈ r.memberNodes, ∃ i e, after.serving n.client.base = some i ∧ after.engines[i]? = some e ∧ e.Lacks c.name := by
  intro r registered after
  have sound : r.Sound := sound_run policy common net₀ es
  have hpolicy : r.policy = policy := policy_run policy common net₀ es
  have hserved : ∀ n ∈ r.memberNodes, ∃ i e, net.serving n.client.base = some i ∧ net.engines[i]? = some e ∧
      e.Willing (.unregisterStorage c.name) (min limit' r.policy.timeout.nanos) := hpolicy.symm ▸ hserved
  cases hc : c.register with
  | error e =>
    have hrefused : (r.mutate net limit (.registerStorage c)).2.outcome = .error e := by
      rw [r.mutate_eq_refused (by rw [Mutation.call, hc]; rfl)]
    cases hrefused.symm.trans hregistered
  | ok registration =>
    have hcall : (Mutation.registerStorage c).call = .ok (WorkerCall.registerStorage registration) := by
      rw [Mutation.call, hc]
      rfl
    have kept : net.Kept registered := by
      show net.Kept (r.registerStorage net limit c).1
      rw [r.registerStorage_eq_mutate, r.mutate_eq_broadcast hcall]
      exact kept_callEach _ limit net r.memberNodes
    refine sound.unregister (fun n hn => ?_) hplain
    obtain ⟨i, e, hserving, he, hwilling⟩ := hserved n hn
    have htold := (r.mutate_eq_ok_iff net limit hcall).mp hregistered n hn
    have hrelay : (n.relay net limit (WorkerCall.registerStorage registration)).2.outcome = .ok () := by
      cases hx : (n.relay net limit (WorkerCall.registerStorage registration)).2.told r.policy.timeout with
      | ok x => exact Reply.told_eq_ok hx
      | error e =>
        rw [hx] at htold
        cases htold
    obtain ⟨o, htakes⟩ := Node.takes_back hserving hrelay (Credential.name_ne_empty hc) hplain hpoints
    obtain ⟨e', he', hfail, hdelay⟩ := kept.tables he
    exact ⟨o, i, e', htakes.kept kept, he', hwilling.kept hfail hdelay⟩

/-- A credential for a storage. -/
def storageCredential (name : String) : Credential where
  name := name
  kind := "s3"
  scope := []
  parameters := [("KEY_ID", .string "k"), ("SECRET", .string "s"), ("REGION", .string "eu"), ("ENDPOINT", .string "e"),
    ("USE_SSL", .bool true), ("URL_STYLE", .string "path")]

/-- What workers receive of the credential. -/
def storageRegistration (name : String) : Registration :=
  ⟨"s3", name, [], "k", "s", "eu", "e", true, "path", false, "", ""⟩

theorem call_storageCredential {name : String} (h : name ≠ "") :
    (Mutation.registerStorage (storageCredential name)).call =
      .ok (WorkerCall.registerStorage (storageRegistration name)) := by
  have hregister : (storageCredential name).register = .ok (storageRegistration name) := by
    unfold Credential.register
    rw [if_neg (show (storageCredential name).name ≠ "" from h)]
    rfl
  rw [Mutation.call, hregister]
  rfl

/-- The roster of a worker that is ready. -/
def oneMember : Roster := ((start hastyPolicy blankSettings twoHosts).run (threeWorkers.take 1)).roster

/-- The member registers a storage. -/
def registered (name : String) : Network × Reply Unit :=
  oneMember.registerStorage threeHosts 2000 (storageCredential name)

/-- The member unregisters a storage that it has registered. -/
def unregistered (name : String) : Network × Reply Unit :=
  oneMember.unregisterStorage (registered name).1 2000 (storageCredential name).name

theorem registered_eq_ok_iff {name : String} (h : name ≠ "") : (registered name).2.outcome = .ok () ↔
    ∀ n ∈ oneMember.memberNodes, ((n.relay threeHosts 2000 (WorkerCall.registerStorage
      (storageRegistration name))).2.told oneMember.policy.timeout).isOk = true := by
  rw [registered, oneMember.registerStorage_eq_mutate]
  exact oneMember.mutate_eq_ok_iff threeHosts 2000 (call_storageCredential h)

theorem unregistered_eq_ok_iff (name : String) : (unregistered name).2.outcome = .ok () ↔
    ∀ n ∈ oneMember.memberNodes, ((n.relay (registered name).1 2000 (WorkerCall.unregisterStorage
      name)).2.told oneMember.policy.timeout).isOk = true := by
  rw [unregistered, oneMember.unregisterStorage_eq_mutate]
  exact oneMember.mutate_eq_ok_iff (registered name).1 2000 rfl

/-- A storage with a slash in its name is registered, and unregistered. -/
theorem unregister_registered_slash :
    (registered "a/b").2.outcome = .ok () ∧ (unregistered "a/b").2.outcome = .ok () := by
  have hserving : ∀ n ∈ oneMember.memberNodes, threeHosts.serving n.client.base = some 0 := by decide +kernel
  have hserved : ∀ n ∈ oneMember.memberNodes, ∃ i e, threeHosts.serving n.client.base = some i ∧
      threeHosts.engines[i]? = some e ∧
        e.Willing (.unregisterStorage (storageCredential "a/b").name) (min 2000 hastyPolicy.timeout.nanos) :=
    fun n hn => ⟨0, freshEngine [], hserving n hn, rfl, by decide, by decide⟩
  have hregistered : (registered "a/b").2.outcome = .ok () := (registered_eq_ok_iff (by decide)).mpr (by decide +kernel)
  refine ⟨hregistered, ?_⟩
  unfold unregistered
  unfold registered oneMember at hregistered ⊢
  exact (unregister_registered hastyPolicy blankSettings twoHosts (threeWorkers.take 1) threeHosts 2000 2000
    (storageCredential "a/b") hserved hregistered (Url.plain_of_all (by decide)) (by decide)).1

/-- A tab is lost on the way: a storage `a\tb` is registered and unregistered with success, and is still there. -/
theorem unregistered_tab : (registered "a\tb").2.outcome = .ok () ∧ (unregistered "a\tb").2.outcome = .ok () ∧
    (unregistered "a\tb").1.engines.map (·.storages.map (·.name)) = [["a\tb"], [], []] := by
  have hall : (∀ n ∈ oneMember.memberNodes, ((n.relay threeHosts 2000 (WorkerCall.registerStorage
        (storageRegistration "a\tb"))).2.told oneMember.policy.timeout).isOk = true) ∧
      (∀ n ∈ oneMember.memberNodes, ((n.relay (registered "a\tb").1 2000 (WorkerCall.unregisterStorage
        "a\tb")).2.told oneMember.policy.timeout).isOk = true) ∧
      (unregistered "a\tb").1.engines.map (·.storages.map (·.name)) = [["a\tb"], [], []] := by decide +kernel
  exact ⟨(registered_eq_ok_iff (by decide)).mpr hall.1, (unregistered_eq_ok_iff "a\tb").mpr hall.2.1, hall.2.2⟩

end Cluster

end Muster
