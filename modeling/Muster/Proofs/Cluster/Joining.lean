import Muster.Proofs.Cluster.Aggregation
import Muster.Proofs.Cluster.Linked
import Muster.Proofs.Document.CommonSettings
import Muster.Proofs.Text.Form

/-! # Joining and leaving

A worker whose settings name the root of the interface, the right secret and an address of its own joins whatever its
name and version are: it takes the place of the members with its name or its address, and goes by its address if it
has no name. Until somebody is enrolled again it is the one that its leaving removes. -/

namespace Muster

open Http

/-! ### Forms -/

namespace Cluster

variable {known : List String} {fields : List (String × String)} {r : Request}

/-- The fields of a form in which none that is known comes twice are read as they were written. -/
theorem fieldsOf_formText (hquery : r.query.getD [] = Text.formText fields)
    (honce : ∀ name ∈ known, fields.countP (·.1 = name) ≤ 1) :
    fieldsOf known r = .ok fun name => (fields.lookup name).getD "" := by
  have hnone : (known.any fun name => 1 < fields.countP (·.1 = name)) = false := by
    refine List.any_eq_false.mpr fun name hname => ?_
    have := honce name hname
    simpa using this
  unfold fieldsOf
  rw [hquery, Text.formPairs_formText]
  dsimp only
  rw [hnone]
  rfl

end Cluster

theorem addQuery_of_blank {fields : List (String × String)} {query : Option (List Char)} (hfields : fields ≠ [])
    (hquery : query.getD [] = []) : (addQuery fields query).getD [] = Text.formText fields := by
  unfold addQuery
  rw [if_neg (by simpa using hfields)]
  cases query with
  | none => rfl
  | some q =>
    obtain rfl : q = [] := hquery
    rfl

theorem Http.Usable.isHeaderValue {secret : String} (h : Usable secret) : Http.isHeaderValue secret.toList = true := by
  unfold Http.isHeaderValue
  refine List.all_eq_true.mpr fun c hc => ?_
  rcases h.readable c hc with rfl | ⟨hlow, hhigh⟩
  · rfl
  · have hvisible : 0x20 ≤ c.toNat ∧ c.toNat ≠ 0x7F := ⟨hlow, by omega⟩
    simp [hvisible]

namespace Settings

/-- The name under which a worker counts. -/
def Worker.memberName (w : Worker) : String := if w.nodeName = "" then w.nodeUrl else w.nodeName

end Settings

/-! ### Common settings -/

@[simp] theorem Roster.common_modifyAll (r : Roster) (ids : List Nat) (f : Node → Node) :
    (r.modifyAll ids f).common = r.common := by
  induction ids generalizing r with
  | nil => rfl
  | cons id ids ih => exact ih (r.modify id f)

namespace Cluster

/-- No event changes the settings that are pushed. -/
theorem common_react (c : Cluster) (e : Event) : (c.react e).roster.common = c.roster.common := by
  cases e with
  | changed x =>
    cases x with
    | enroll name url version =>
      show (c.enroll name url version).1.roster.common = _
      rcases c.enroll_cases name url version with ⟨-, e, he⟩ | ⟨-, n, -, he⟩
      · rw [he]
      · rw [he]
        exact Roster.common_modifyAll c.roster _ Node.stop
    | remove name =>
      show (c.remove name).1.roster.common = _
      rcases c.remove_cases name with ⟨-, he⟩ | ⟨-, t, ht, he⟩
      · rw [he]
      · rw [he]
        obtain ⟨id, -, rfl⟩ := Roster.remove_eq_ok ht
        rfl
    | dissolve => exact Roster.common_modifyAll c.roster _ Node.stop
  | operated o limit => rfl
  | checked place moment x => rfl
  | passed span => rfl
  | rewired net => rfl

theorem common_run (policy : Policy) (common : CommonSettings) (net : Network) (es : List Event) :
    ((start policy common net).run es).roster.common = common :=
  run_invariant (P := fun c => c.roster.common = common) rfl fun c e h => (c.common_react e).trans h

end Cluster

/-! ### Membership -/

namespace Cluster

variable {c d : Cluster} {u : Uplink} {name : String}

/-- Whoever is removed leaves a place empty; if nobody has the name, nothing happens. -/
theorem memberNodes_remove (h : c.roster.Sound) (name : String) :
    (c.remove name).1.roster.memberNodes = c.roster.memberNodes.filter (·.name ≠ name) := by
  rcases c.remove_cases name with ⟨hout, heq⟩ | ⟨-, t, ht, heq⟩
  · rw [heq]
    refine (List.filter_eq_self.mpr fun m hm => ?_).symm
    have hmem := List.mem_map_of_mem (f := Node.name) hm
    rw [h.map_name] at hmem
    exact decide_eq_true fun hname => hout (hname ▸ hmem)
  · rw [heq]
    exact h.memberNodes_remove ht

theorem remove_of_absent (h : c.roster.Sound) (hout : ∀ m ∈ c.roster.memberNodes, m.name ≠ name) :
    (c.remove name).1 = c := by
  rcases c.remove_cases name with ⟨-, heq⟩ | ⟨hmem, -⟩
  · rw [heq]
  · rw [← h.map_name] at hmem
    obtain ⟨m, hm, hname⟩ := List.mem_map.mp hmem
    exact absurd hname (hout m hm)

/-- Where nobody is enrolled, the members afterwards are members from before. -/
theorem mem_of_react (h : c.roster.Sound) {e : Event} (hnone : enrolled (c.entry e) = []) :
    ∀ m ∈ (c.react e).roster.memberNodes, ∃ k ∈ c.roster.memberNodes, k.core = m.core := by
  intro m hm
  rcases c.react_cases e with ⟨hsame, -⟩ | ⟨name, url, version, n, -, -, -, hone⟩ | ⟨name, t, ht, heq, -⟩ | ⟨heq, -⟩
  · have hcore := List.mem_map_of_mem (f := Node.core) hm
    rw [hsame.memberNodes] at hcore
    exact List.mem_map.mp hcore
  · rw [hnone] at hone
    cases hone
  · rw [heq, h.memberNodes_remove ht] at hm
    exact ⟨m, (List.mem_filter.mp hm).1, rfl⟩
  · rw [heq] at hm
    cases hm

theorem mem_of_run (h : c.roster.Sound) {es : List Event} (hnone : enrolled (c.history es) = []) :
    ∀ m ∈ (c.run es).roster.memberNodes, ∃ k ∈ c.roster.memberNodes, k.core = m.core := by
  induction es generalizing c with
  | nil => exact fun m hm => ⟨m, hm, rfl⟩
  | cons e es ih =>
    intro m hm
    have hboth : enrolled (c.entry e) ++ enrolled ((c.react e).history es) = [] :=
      List.filterMap_append.symm.trans hnone
    obtain ⟨hfirst, hrest⟩ := List.append_eq_nil_iff.mp hboth
    obtain ⟨k, hk, hkm⟩ := ih (sound_react h e) hrest m hm
    obtain ⟨l, hl, hlk⟩ := mem_of_react h hfirst k hk
    exact ⟨l, hl, hlk.trans hkm⟩

/-! ### Uplinks -/

/-- A cluster with the same hosts and the same secret is reached as well. -/
theorem Linked.of_eq (h : c.Linked u) (hconnected : d.net.connected = c.net.connected)
    (hservices : d.net.services = c.net.services) (hpolicy : d.roster.policy = c.roster.policy) : d.Linked u where
  connected := hconnected.trans h.connected
  served := hservices ▸ h.served
  takes := h.takes
  root := h.root
  secret := hpolicy ▸ h.secret
  usable := hpolicy ▸ h.usable

theorem asksFor_joining (u : Uplink) : u.joining.AsksFor .enroll [] :=
  .of_segments (List.cons_ne_nil _ _) (List.forall_mem_singleton.mpr (by decide)) ⟨_, rfl, rfl⟩

theorem asksFor_leaving (u : Uplink) : u.leaving.AsksFor .remove [] :=
  .of_segments (List.cons_ne_nil _ _) (List.forall_mem_singleton.mpr (by decide)) ⟨_, rfl, rfl⟩

theorem readPushed_json (common : CommonSettings) :
    Uplink.readPushed (Response.json common.encode).onWire = .ok common := by
  have hbody : (Response.json common.encode).onWire = .json common.encode := rfl
  have htype : Uplink.isJsonAnswer (.json common.encode) = true := by
    show (isReadable jsonText.toList && jsonText.toList.isPrefixOf jsonText.toList) = true
    decide
  unfold Uplink.readPushed
  rw [hbody, htype, readBody_json common.spelled (by decide)]
  rfl

/-- The answer to a worker that is enrolled. -/
theorem enrollAnswer_of_enroll {c c' : Cluster} {r : Request} {field : String → String} {common : CommonSettings}
    (hfields : fieldsOf ["name", "url", "version"] r = .ok field)
    (henroll : c.enroll (field "name") (field "url") (field "version") = (c', .ok common)) :
    c.enrollAnswer r = (c', .json common.encode) := by
  simp only [enrollAnswer, hfields, henroll]

section
variable (h : c.Linked u) (hquery : u.client.base.query.getD [] = []) (htime : 0 < u.timeout.nanos)
include h hquery htime

/-- A linked worker that can be enrolled is, and is told the common settings. -/
theorem Linked.join_eq (henroll : enrollable c.roster.policy u.nodeUrl) : ∃ o,
    c.join u =
      ⟨{ (c.enroll u.nodeName u.nodeUrl u.version).1 with net := c.net.deliver o }, 0, .ok c.roster.common⟩ := by
  obtain ⟨o, -, -, hoquery, hcall⟩ := h.call_eq (asksFor_joining u)
  have hform : o.request.query.getD [] =
      Text.formText [("name", u.nodeName), ("url", u.nodeUrl), ("version", u.version)] := by
    rw [show o.request.query = o.url.query from rfl, hoquery]
    exact addQuery_of_blank (List.cons_ne_nil _ _) hquery
  have hfields : fieldsOf ["name", "url", "version"] o.request = .ok _ :=
    fieldsOf_formText hform (by simp [List.countP_cons])
  have henrolled : (c.reached o).enroll u.nodeName u.nodeUrl u.version =
      ({ (c.enroll u.nodeName u.nodeUrl u.version).1 with net := c.net.deliver o }, .ok c.roster.common) := by
    rcases c.enroll_cases u.nodeName u.nodeUrl u.version with ⟨hnot, -⟩ | ⟨-, n, hn, heq⟩
    · exact absurd henroll hnot
    · rcases (c.reached o).enroll_cases u.nodeName u.nodeUrl u.version with ⟨hnot, -⟩ | ⟨-, n', hn', heq'⟩
      · exact absurd henroll hnot
      · obtain rfl : n' = n := Except.ok.inj (hn'.symm.trans hn)
        rw [heq, heq']
        rfl
  have hanswer : (c.reached o).enrollAnswer o.request =
      ({ (c.enroll u.nodeName u.nodeUrl u.version).1 with net := c.net.deliver o }, .json c.roster.common.encode) :=
    enrollAnswer_of_enroll hfields henrolled
  have hperformed : (c.reached o).perform u.timeout.nanos .enroll [] o.request =
      ({ (c.enroll u.nodeName u.nodeUrl u.version).1 with net := c.net.deliver o }, 0,
        .json c.roster.common.encode) := by
    show (((c.reached o).enrollAnswer o.request).1, 0, ((c.reached o).enrollAnswer o.request).2) = _
    rw [hanswer]
  have houtcome : u.joining.outcome o.url (.answered (Response.json c.roster.common.encode).onWire) =
      .ok c.roster.common := by
    have hread : u.joining.read = Uplink.readPushed := rfl
    have hsuccess : (Response.json c.roster.common.encode).onWire.isSuccess = true := Response.isSuccess_onWire _
    rw [u.joining.outcome_of_success o.url hsuccess, hread, readPushed_json]
  refine ⟨o, ?_⟩
  unfold join
  rw [hcall, hperformed]
  dsimp only
  rw [if_pos htime, houtcome]
  rfl

/-- A linked worker that leaves is removed under the name that it goes by. -/
theorem Linked.leave_eq (hname : u.nodeName ≠ "") :
    ∃ o, (c.leave u).cluster = { (c.remove u.nodeName).1 with net := c.net.deliver o } := by
  obtain ⟨o, -, -, hoquery, hcall⟩ := h.call_eq (asksFor_leaving u)
  have hform : o.request.query.getD [] = Text.formText [("name", u.nodeName)] := by
    rw [show o.request.query = o.url.query from rfl, hoquery]
    exact addQuery_of_blank (List.cons_ne_nil _ _) hquery
  have hfields : fieldsOf ["name"] o.request = .ok _ := fieldsOf_formText hform (by simp [List.countP_cons])
  have hremoved : ((c.reached o).remove u.nodeName).1 = { (c.remove u.nodeName).1 with net := c.net.deliver o } := by
    have hroster : (c.reached o).roster = c.roster := rfl
    unfold remove
    rw [hroster]
    cases c.roster.remove u.nodeName with
    | error e => rfl
    | ok t => rfl
  have hanswer : (c.reached o).removeAnswer o.request = (((c.reached o).remove u.nodeName).1,
      resultOf ("node " ++ u.nodeName ++ " unregistered") ((c.reached o).remove u.nodeName).2) := by
    unfold removeAnswer
    rw [hfields]
    exact if_neg hname
  have hperformed : (c.reached o).perform u.timeout.nanos .remove [] o.request =
      (((c.reached o).remove u.nodeName).1, 0,
        resultOf ("node " ++ u.nodeName ++ " unregistered") ((c.reached o).remove u.nodeName).2) := by
    show (((c.reached o).removeAnswer o.request).1, 0, ((c.reached o).removeAnswer o.request).2) = _
    rw [hanswer]
  refine ⟨o, ?_⟩
  unfold leave
  rw [hcall, hperformed]
  dsimp only
  rw [if_pos htime, hremoved]

/-- Whoever leaves is no member afterwards, and all others stay. To leave again changes nothing. -/
theorem Linked.leaves (sound : c.roster.Sound) (hname : u.nodeName ≠ "") :
    (c.leave u).cluster.roster.memberNodes = c.roster.memberNodes.filter (·.name ≠ u.nodeName) ∧
    ((c.leave u).cluster.leave u).cluster.roster = (c.leave u).cluster.roster := by
  obtain ⟨o, hleft⟩ := h.leave_eq hquery htime hname
  have hroster : (c.leave u).cluster.roster = (c.remove u.nodeName).1.roster := by rw [hleft]
  have hnodes : (c.leave u).cluster.roster.memberNodes = c.roster.memberNodes.filter (·.name ≠ u.nodeName) := by
    rw [hroster]
    exact memberNodes_remove sound u.nodeName
  have hsound : (c.leave u).cluster.roster.Sound := by
    rw [hroster]
    exact sound_react sound (.changed (.remove u.nodeName))
  have hlinked : (c.leave u).cluster.Linked u := by
    refine h.of_eq ?_ ?_ ?_
    · rw [hleft]
      rfl
    · rw [hleft]
      rfl
    · rw [hroster]
      exact c.policy_react (.changed (.remove u.nodeName))
  refine ⟨hnodes, ?_⟩
  obtain ⟨o', hagain⟩ := hlinked.leave_eq hquery htime hname
  have habsent : ∀ m ∈ (c.leave u).cluster.roster.memberNodes, m.name ≠ u.nodeName := by
    intro m hm
    rw [hnodes] at hm
    simpa using (List.mem_filter.mp hm).2
  rw [hagain, remove_of_absent hsound habsent]

end

/-! ### Workers -/

/-- The settings of a worker that a cluster admits: they name the root of its interface, its secret in a form that can
be presented, and an address of the worker. -/
structure Admits (c : Cluster) (w : Settings.Worker) : Prop where
  connected : c.net.connected = true
  address : ∃ base secret, Url.parse w.managementUrl = .ok base ∧ base.takesRequests = true ∧ base.isRoot = true ∧
    base.query.getD [] = [] ∧ c.net.services.lookup base.server = some (.management secret)
  secret : w.secret = c.roster.policy.secret
  given : w.secret ≠ ""
  usable : Usable w.secret
  located : w.nodeUrl ≠ "" ∧ ∃ base, Url.parse w.nodeUrl = .ok base

variable {w : Settings.Worker}

theorem Admits.enrollable (h : c.Admits w) : enrollable c.roster.policy w.nodeUrl :=
  ⟨h.located.1, h.located.2, h.secret ▸ h.usable.isHeaderValue⟩

/-- A worker that is admitted has an uplink that reaches the interface. -/
theorem Admits.uplink (h : c.Admits w) : ∃ u, w.isClusterMode = true ∧ Uplink.make w = .ok u ∧ c.Linked u ∧
    u.client.base.query.getD [] = [] ∧ u.nodeName = w.memberName ∧ u.nodeUrl = w.nodeUrl ∧ u.version = w.version ∧
    0 < u.timeout.nanos := by
  obtain ⟨base, secret, hparse, htakes, hroot, hquery, hserved⟩ := h.address
  have haddress : w.managementUrl ≠ "" := by
    intro hempty
    rw [hempty] at hparse
    cases hparse
  have hclient : Client.make "management" w.managementUrl w.secret = .ok ⟨base, w.secret⟩ := by
    unfold Client.make
    rw [hparse]
    exact if_pos h.usable.isHeaderValue
  refine ⟨⟨⟨base, w.secret⟩, w.memberName, w.nodeUrl, w.version, w.clusterTimeout⟩, decide_eq_true haddress, ?_,
    ⟨h.connected, ⟨secret, hserved⟩, htakes, hroot, h.secret, h.secret ▸ h.usable⟩, hquery, rfl, rfl, rfl,
    Settings.nanos_secondsOr (by decide) _⟩
  unfold Uplink.make
  rw [if_neg haddress, if_neg h.given, hclient]
  rfl

/-- A worker that is admitted is enrolled under the name that it counts under, and takes over the common settings. -/
theorem Admits.connect_eq (h : c.Admits w) : ∃ u o, c.Linked u ∧ u.client.base.query.getD [] = [] ∧
    u.nodeName = w.memberName ∧ 0 < u.timeout.nanos ∧
    c.connect w = ⟨{ (c.enroll w.memberName w.nodeUrl w.version).1 with net := c.net.deliver o }, 0,
      w.apply c.roster.common, .ok (.joined u)⟩ := by
  obtain ⟨u, hcluster, hmake, hlinked, hquery, hname, hurl, hversion, htime⟩ := h.uplink
  obtain ⟨o, hjoin⟩ := hlinked.join_eq hquery htime (hurl ▸ h.enrollable)
  refine ⟨u, o, hlinked, hquery, hname, htime, ?_⟩
  unfold connect
  rw [if_pos hcluster, hmake]
  dsimp only
  rw [hjoin, hname, hurl, hversion]

theorem Admits.memberName_ne (h : c.Admits w) : w.memberName ≠ "" := by
  unfold Settings.Worker.memberName
  split
  · exact h.located.1
  · assumption

/-- A worker that is admitted joins, whatever its name and its version are. It is the last of the members, from which
those with its name or its address have gone. When it leaves, it is the one to go, whatever has happened meanwhile but
an enrollment; if nobody had its name or its address, the members are those from before, and to leave again changes
nothing. -/
theorem connect_leave (policy : Policy) (common : CommonSettings) (net₀ : Network) (es : List Event)
    (w : Settings.Worker) (h : ((start policy common net₀).run es).Admits w) :
    let c := (start policy common net₀).run es
    let joined := (c.connect w).cluster
    let others := c.roster.memberNodes.filter fun m => m.name ≠ w.memberName ∧ m.url ≠ w.nodeUrl
    ∃ u k, (c.connect w).result = (w.apply common, .ok (.joined u)) ∧ joined.Linked u ∧
      joined.roster.memberNodes = others ++ [k] ∧
      (k.name = w.memberName ∧ k.url = w.nodeUrl ∧ k.health = .registered c.clock.moment w.version ∧
        k.isRunning = true ∧ (k.isReady = true ↔ w.version = policy.clusterVersion)) ∧
      (joined.leave u).cluster.roster.memberNodes = others ∧
      ((∀ m ∈ c.roster.memberNodes, m.name ≠ w.memberName ∧ m.url ≠ w.nodeUrl) →
        (joined.leave u).cluster.roster.memberNodes = c.roster.memberNodes) ∧
      ∀ es', enrolled (joined.history es') = [] → (joined.run es').Linked u →
        let later := joined.run es'
        (later.leave u).cluster.roster.memberNodes = later.roster.memberNodes.filter (·.name ≠ w.memberName) ∧
        (∀ m ∈ later.roster.memberNodes, m.name = w.memberName → m.core = k.core) ∧
        ((later.leave u).cluster.leave u).cluster.roster = (later.leave u).cluster.roster := by
  intro c joined others
  have sound : c.roster.Sound := sound_run policy common net₀ es
  have hpolicy : c.roster.policy = policy := policy_run policy common net₀ es
  have hcommon : c.roster.common = common := common_run policy common net₀ es
  have hmember : w.memberName ≠ "" := h.memberName_ne
  obtain ⟨u, o, hlinked, hquery, hname, htime, hconnect⟩ := h.connect_eq
  rw [hcommon] at hconnect
  -- The node that is made for the worker.
  obtain ⟨k, hseat, hk⟩ : ∃ k, (c.enroll w.memberName w.nodeUrl w.version).1.roster.memberNodes = others ++ [k] ∧
      (k.name = w.memberName ∧ k.url = w.nodeUrl ∧ k.health = .registered c.clock.moment w.version ∧
        k.isRunning = true ∧ (k.isReady = true ↔ w.version = policy.clusterVersion)) := by
    rcases c.enroll_cases w.memberName w.nodeUrl w.version with ⟨hnot, -⟩ | ⟨-, n, hn, heq⟩
    · exact absurd h.enrollable hnot
    · obtain ⟨client, -, rfl⟩ := make_node hn
      rw [heq, if_neg hmember]
      refine ⟨Node.start ⟨w.memberName, w.nodeUrl, client, c.roster.policy, .registered c.clock.moment w.version,
        .stopped⟩ c.clock.now, (sound.memberNodes_seat c.clock.now _).trans ?_, rfl, rfl, rfl,
        Node.isRunning_start _ _, ?_⟩
      · refine congrArg (· ++ _) (List.filter_congr fun m _ => ?_)
        simp
      · show ((none : Option String).isNone && decide (w.version = c.roster.policy.clusterVersion)) = true ↔ _
        simp [hpolicy]
  have hroster : joined.roster = (c.enroll w.memberName w.nodeUrl w.version).1.roster := by
    show (c.connect w).cluster.roster = _
    rw [hconnect]
  have hnodes : joined.roster.memberNodes = others ++ [k] := by rw [hroster, hseat]
  have hsound : joined.roster.Sound := by
    rw [hroster]
    exact sound_react sound (.changed (.enroll w.memberName w.nodeUrl w.version))
  have hjoined : joined.Linked u := by
    refine hlinked.of_eq ?_ ?_ ?_
    · show (c.connect w).cluster.net.connected = _
      rw [hconnect]
      rfl
    · show (c.connect w).cluster.net.services = _
      rw [hconnect]
      rfl
    · rw [hroster]
      exact c.policy_react (.changed (.enroll w.memberName w.nodeUrl w.version))
  have hgoes : u.nodeName ≠ "" := hname ▸ hmember
  have hleft : (joined.leave u).cluster.roster.memberNodes = others := by
    rw [(hjoined.leaves hquery htime hsound hgoes).1, hnodes, List.filter_append, hname]
    have hgone : [k].filter (·.name ≠ w.memberName) = [] := by simp [hk.1]
    have hstay : others.filter (·.name ≠ w.memberName) = others := by
      refine List.filter_eq_self.mpr fun m hm => ?_
      have hm := of_decide_eq_true (List.mem_filter.mp hm).2
      exact decide_eq_true hm.1
    rw [hgone, hstay, List.append_nil]
  refine ⟨u, k, by rw [hconnect], hjoined, hnodes, hk, hleft, fun hnew => hleft.trans ?_, fun es' hnone hlater => ?_⟩
  · exact List.filter_eq_self.mpr fun m hm => decide_eq_true (hnew m hm)
  · have hsound' : (joined.run es').roster.Sound :=
      run_invariant (P := fun c => c.roster.Sound) hsound fun _ e hd => sound_react hd e
    obtain ⟨hnodes', hagain⟩ := hlater.leaves hquery htime hsound' hgoes
    refine ⟨hname ▸ hnodes', fun m hm hmname => ?_, hagain⟩
    -- Whoever has the name was a member when the worker had joined, and only the worker's own node had it then.
    obtain ⟨m', hm', hcore⟩ := mem_of_run hsound hnone m hm
    rw [hnodes] at hm'
    rcases List.mem_append.mp hm' with hm' | hm'
    · have hother := of_decide_eq_true (List.mem_filter.mp hm').2
      exact absurd ((Node.eq_of_core hcore).1.trans hmname) hother.1
    · rw [← hcore, List.mem_singleton.mp hm']

/-- A management node by itself. -/
def oneHost : Network where
  connected := true
  services := [("[::1]:90", .management "secret")]
  engines := []
  engineOf := []
  arrived := []

/-- A worker that goes by a name, at an address. -/
def newcomer (name url : String) : Settings.Worker where
  bind := ""
  nodeName := name
  nodeUrl := url
  managementUrl := "http://[::1]:90/"
  secret := "secret"
  clusterTimeoutSecs := 0
  version := "v1"
  allowParallel := false
  maxParallelQueries := 0
  common := .none

/-- A worker with the name of one member and the address of another takes the places of both; when it leaves, neither
comes back. -/
theorem connect_leave_two : ((start hastyPolicy blankSettings oneHost).run threeWorkers).Admits
      (newcomer "one" "http://[::1]:82/") ∧
    ∃ u, (((start hastyPolicy blankSettings oneHost).run threeWorkers).connect
        (newcomer "one" "http://[::1]:82/")).result.2 = .ok (.joined u) ∧
      ((((start hastyPolicy blankSettings oneHost).run threeWorkers).connect
        (newcomer "one" "http://[::1]:82/")).cluster.leave u).cluster.roster.memberNodes.map (·.name) = ["three"] := by
  have hadmits : ((start hastyPolicy blankSettings oneHost).run threeWorkers).Admits
      (newcomer "one" "http://[::1]:82/") :=
    ⟨rfl, ⟨⟨"http".toList, some ⟨[], "[::1]".toList, some 90⟩, .segments [[]], none, none⟩, "secret",
      by decide +kernel, by decide, by decide, rfl, rfl⟩, rfl, by decide, by decide, by decide,
      ⟨"http".toList, some ⟨[], "[::1]".toList, some 82⟩, .segments [[]], none, none⟩, by decide +kernel⟩
  obtain ⟨u, k, hjoined, -, -, -, hleft, -⟩ := connect_leave hastyPolicy blankSettings oneHost threeWorkers
    (newcomer "one" "http://[::1]:82/") hadmits
  refine ⟨hadmits, u, congrArg Prod.snd hjoined, ?_⟩
  rw [hleft]
  decide +kernel

end Cluster

end Muster
