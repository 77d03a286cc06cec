import Muster.Proofs.Cluster.Broadcast
import Muster.Proofs.Credential
import Muster.Proofs.Node.Answer

/-! # What the members are asked

Two questions go to all members. The one for the state of a data source has a row for each of them, which is empty of
errors only if the member answered. The one for the storages is put to those that are ready: their lists come one after
another, and one of them that does not answer fails the whole. -/

namespace Muster

open Worker

/-! ### The state of a data source -/

/-- The row tells what the node answers, or that it does not. -/
structure SourceReport.Reports (row : SourceReport) (n : Node) (net : Network) (within : Nat) (source : String) : Prop where
  node : row.node = n.name
  answered : ∀ s, n.Answers net within (WorkerCall.status source) StatusNotice.read s →
    row.status = s.status ∧ row.error = ""
  silent : (¬ ∃ s, n.Answers net within (WorkerCall.status source) StatusNotice.read s) →
    row.status = "error" ∧ row.error ≠ ""
  honest : row.error = "" ↔ ∃ s, n.Answers net within (WorkerCall.status source) StatusNotice.read s

theorem Node.report_status (n : Node) (net : Network) (limit : Nat) (source : String) :
    (Roster.report (n.name, (n.status net limit source).2.told n.policy.timeout)).Reports n net
      (min limit n.policy.timeout.nanos) source := by
  have hread := WorkerCall.read_status source
  cases htold : (n.status net limit source).2.told n.policy.timeout with
  | ok status =>
    obtain ⟨s, hs, rfl⟩ := answers_of_told hread htold
    refine ⟨rfl, fun s' hs' => ⟨?_, rfl⟩, fun hnone => absurd ⟨s, hs⟩ hnone, fun _ => ⟨s, hs⟩, fun _ => rfl⟩
    exact Except.ok.inj (htold.symm.trans (hs'.told hread))
  | error e =>
    have hnone : ¬ ∃ s, n.Answers net (min limit n.policy.timeout.nanos) (WorkerCall.status source)
        StatusNotice.read s := by
      rintro ⟨s, hs⟩
      cases htold.symm.trans (hs.told hread)
    have htext : e.text ≠ "" := text_of_told hread htold
    exact ⟨rfl, fun s hs => absurd ⟨s, hs⟩ hnone, fun _ => ⟨rfl, htext⟩, fun h => absurd h htext,
      fun h => absurd h hnone⟩

/-! ### Storages -/

namespace Node

variable {n : Node} {net : Network} {limit : Nat} {l : List StorageEntry}

theorem read_storages (r : Http.Response) :
    WorkerCall.storages.read r = (readBody (Json.readList StorageEntry.read) r).map id := by
  show readBody (Json.readList StorageEntry.read) r = _
  cases readBody (Json.readList StorageEntry.read) r <;> rfl

/-- The node lists its storages when asked for them. -/
abbrev Lists (n : Node) (net : Network) (within : Nat) (l : List StorageEntry) : Prop :=
  n.Answers net within WorkerCall.storages (Json.readList StorageEntry.read) l

theorem outcome_storages (n : Node) (net : Network) (limit : Nat) : (n.storages net limit).2.outcome =
    (n.relay net limit WorkerCall.storages).2.outcome.map (·.map ({ · with node := n.name })) := rfl

/-- What a node lists is told under the node's name. -/
theorem Answers.storages (h : n.Lists net (min limit n.policy.timeout.nanos) l) :
    (n.storages net limit).2.outcome = .ok (l.map ({ · with node := n.name })) := by
  rw [n.outcome_storages, (h.outcome read_storages).1]
  rfl

/-- Only a node that is not ready is told of as one. -/
theorem storages_silent (hready : n.isReady = true) (h : ¬ ∃ l, n.Lists net (min limit n.policy.timeout.nanos) l) :
    ∃ e, (n.storages net limit).2.outcome = .error e ∧ e ≠ .notReady := by
  rw [n.outcome_storages]
  cases houtcome : (n.relay net limit WorkerCall.storages).2.outcome with
  | ok y =>
    obtain ⟨l, hl, -⟩ := answers_of_outcome read_storages houtcome
    exact absurd ⟨l, hl⟩ h
  | error e =>
    refine ⟨e, rfl, ?_⟩
    rintro rfl
    exact relay_ne_notReady hready net limit WorkerCall.storages houtcome

theorem told_storages (htime : 0 < n.policy.timeout.nanos) (net : Network) (limit : Nat) :
    (n.storages net limit).2.told n.policy.timeout = (n.storages net limit).2.outcome := by
  have hrelay := told_eq_outcome htime net limit WorkerCall.storages
  have hmap : (n.storages net limit).2.told n.policy.timeout =
      ((n.relay net limit WorkerCall.storages).2.told n.policy.timeout).map (·.map ({ · with node := n.name })) := by
    show (if (n.relay net limit WorkerCall.storages).2.after < n.policy.timeout.nanos then _ else _) = _
    unfold Reply.told
    split <;> rfl
  rw [hmap, hrelay, n.outcome_storages]

theorem isSkipped_storages (n : Node) (net : Network) (limit : Nat) :
    Roster.isSkipped (n.name, (n.storages net limit).2.outcome) = !n.isReady := by
  cases hready : n.isReady with
  | false =>
    rw [n.outcome_storages, relay_not_ready hready]
    rfl
  | true =>
    by_cases h : ∃ l, n.Lists net (min limit n.policy.timeout.nanos) l
    · obtain ⟨l, hl⟩ := h
      rw [hl.storages]
      rfl
    · obtain ⟨e, he, hne⟩ := storages_silent hready h
      rw [he]
      exact Roster.isSkipped_of_ne hne n.name

end Node

namespace Roster

/-- The members that are ready and do not list their storages. -/
def silent (r : Roster) (net : Network) (within : Nat) : List Node :=
  r.readyNodes.filter fun n => ¬ ∃ l, n.Lists net within l

variable {r : Roster} {net : Network} {limit : Nat}

/-- What is told of the question for storages: of each member what its own call comes to at the beginning. -/
theorem told_storages (h : r.Sound) (htime : 0 < r.policy.timeout.nanos) (net : Network) (limit : Nat) :
    (r.fanOut net fun n net => n.storages net limit).2.2 =
      r.memberNodes.map fun n => (n.name, (n.storages net limit).2.outcome) := by
  have same (n : Node) (a : Network) (h : Network.Like (asks WorkerCall.storages.method) a net) :
      (n.storages a limit).2 = (n.storages net limit).2 :=
    congrArg (fun reply => (⟨reply.after, reply.outcome.map (·.map ({ · with node := n.name }))⟩ : Reply _))
      (n.relay_like h limit).1
  have kept (n : Node) (a : Network) (h : Network.Like (asks WorkerCall.storages.method) a net) :
      Network.Like (asks WorkerCall.storages.method) (n.storages a limit).1 net := (n.relay_like h limit).2
  have replies := callEach_eq_map same kept (.refl _ net) r.memberNodes
  rw [told_fanOut, replies, List.map_map, List.zip_map']
  refine List.map_congr_left fun n hn => ?_
  have hpolicy : n.policy = r.policy := (h.made_member hn).1
  rw [← hpolicy] at htime ⊢
  exact congrArg (n.name, ·) (Node.told_storages htime net limit)

/-- Members that are not ready have no part in the list of storages. -/
theorem outcome_storages (h : r.Sound) (htime : 0 < r.policy.timeout.nanos) (net : Network) (limit : Nat) :
    let told := r.readyNodes.map fun n => (n.name, (n.storages net limit).2.outcome)
    (r.storages net limit).2.outcome = (verdict "list storages" told).map fun _ => entries told := by
  intro told
  have hasked : ((r.fanOut net fun n net => n.storages net limit).2.2.filter (!isSkipped ·)) = told := by
    rw [told_storages h htime, List.filter_map]
    refine congrArg (List.map _) (List.filter_congr fun n _ => ?_)
    rw [Function.comp_apply, n.isSkipped_storages, Bool.not_not]
  show (verdict "list storages" ((r.fanOut net _).2.2.filter _)).map (fun _ => entries ((r.fanOut net _).2.2.filter _)) = _
  rw [hasked]

theorem entries_map {nodes : List Node} {tell : Node → Except ClusterError (List StorageEntry)}
    {lists : Node → List StorageEntry} (h : ∀ n ∈ nodes, tell n = .ok (lists n)) :
    entries (nodes.map fun n => (n.name, tell n)) = nodes.flatMap lists := by
  unfold entries
  rw [List.flatMap_map]
  exact List.flatMap_congr fun n hn => by rw [h n hn]

/-- The lists of all members that are ready are put one after another, each under the name of its member. -/
theorem storages_of_lists (h : r.Sound) (htime : 0 < r.policy.timeout.nanos) {lists : Node → List StorageEntry}
    (hlists : ∀ n ∈ r.readyNodes, n.Lists net (min limit r.policy.timeout.nanos) (lists n)) :
    (r.storages net limit).2.outcome =
      .ok (r.readyNodes.flatMap fun n => (lists n).map ({ · with node := n.name })) := by
  have htold : ∀ n ∈ r.readyNodes,
      (n.storages net limit).2.outcome = .ok ((lists n).map ({ · with node := n.name })) := by
    intro n hn
    have hpolicy : n.policy = r.policy := (h.made_member (mem_readyNodes.mp hn).1).1
    have hl := hlists n hn
    rw [← hpolicy] at hl
    exact hl.storages
  have hall : ∀ x ∈ r.readyNodes.map fun n => (n.name, (n.storages net limit).2.outcome),
      x.2.isOk = true := by
    intro x hx
    obtain ⟨n, hn, rfl⟩ := List.mem_map.mp hx
    exact congrArg Except.isOk (htold n hn)
  rw [outcome_storages h htime, verdict_eq_ok_iff.mpr hall, entries_map htold]
  rfl

/-- One member that is ready and does not list its storages fails the whole, with all of those that do not. -/
theorem storages_of_silent (h : r.Sound) (htime : 0 < r.policy.timeout.nanos)
    (hsilent : r.silent net (min limit r.policy.timeout.nanos) ≠ []) : ∃ error : Node → ClusterError,
      (∀ n ∈ r.silent net (min limit r.policy.timeout.nanos), (n.storages net limit).2.outcome = .error (error n)) ∧
      (r.storages net limit).2.outcome = .error (.broadcast
        ((r.silent net (min limit r.policy.timeout.nanos)).map fun n => ⟨n.name, "list storages", (error n).text⟩)) := by
  have hpolicy : ∀ n ∈ r.readyNodes, n.policy = r.policy := fun n hn =>
    (h.made_member (mem_readyNodes.mp hn).1).1
  have hfails : ∀ n ∈ r.silent net (min limit r.policy.timeout.nanos),
      ∃ e, (n.storages net limit).2.outcome = .error e := by
    intro n hn
    obtain ⟨hn, hnone⟩ := List.mem_filter.mp hn
    rw [decide_eq_true_eq, ← hpolicy n hn] at hnone
    obtain ⟨e, he, -⟩ := Node.storages_silent (mem_readyNodes.mp hn).2 hnone
    exact ⟨e, he⟩
  have : Nonempty ClusterError := ⟨.notReady⟩
  choose! error herror using hfails
  have hfailures : failures "list storages" (r.readyNodes.map fun n => (n.name, (n.storages net limit).2.outcome)) =
      (r.silent net (min limit r.policy.timeout.nanos)).map fun n => ⟨n.name, "list storages", (error n).text⟩ := by
    refine failures_map _ fun n hn => ?_
    by_cases hlists : ∃ l, n.Lists net (min limit r.policy.timeout.nanos) l
    · obtain ⟨l, hl⟩ := hlists
      rw [← hpolicy n hn] at hl
      exact Or.inl ⟨_, not_not_intro ⟨l, hpolicy n hn ▸ hl⟩, hl.storages⟩
    · exact Or.inr ⟨error n, hlists, herror n (List.mem_filter.mpr ⟨hn, by simpa using hlists⟩), rfl⟩
  refine ⟨error, herror, ?_⟩
  rw [outcome_storages h htime, verdict, hfailures, if_neg (by simpa using hsilent)]
  rfl

end Roster

namespace Cluster

/-- The question for the state of a data source, in any state that a cluster can reach and any network, never fails. It
has one row for each member, in order and under the member's name. The row of a member that is ready and answers in time
carries its answer and no error; the row of every other one has the state `error` and a text. So a row is without an error
if and only if its member answered, whatever the answer was. -/
theorem status_reports (policy : Policy) (common : CommonSettings) (net₀ : Network) (es : List Event) (net : Network)
    (limit : Nat) (source : String) :
    let r := ((start policy common net₀).run es).roster
    let rows := (r.status net limit source).2.2
    List.Forall₂ (fun n row => row.Reports n net (min limit policy.timeout.nanos) source) r.memberNodes rows ∧
    rows.map (·.node) = r.memberNodes.map Node.name ∧ (r.memberNodes.map Node.name).Nodup := by
  intro r rows
  have sound : r.Sound := sound_run policy common net₀ es
  have hpolicy : r.policy = policy := policy_run policy common net₀ es
  have hrows : rows = r.memberNodes.map fun n =>
      Roster.report (n.name, (n.status net limit source).2.told r.policy.timeout) := by
    show ((r.fanOut net fun n net => n.relay net limit (WorkerCall.status source)).2.2).map Roster.report = _
    rw [Roster.told_relays, List.map_map]
    rfl
  have hreports : List.Forall₂ (fun n row => row.Reports n net (min limit policy.timeout.nanos) source)
      r.memberNodes rows := by
    rw [hrows, List.forall₂_map_right_iff, List.forall₂_same]
    intro n hn
    have hmade : n.policy = r.policy := (sound.made_member hn).1
    rw [← hpolicy, ← hmade]
    exact n.report_status net limit source
  refine ⟨hreports, ?_, sound.nodup_name⟩
  rw [hrows, List.map_map]
  refine List.map_congr_left fun n _ => ?_
  show (Roster.report (n.name, (n.status net limit source).2.told r.policy.timeout)).node = n.name
  cases (n.status net limit source).2.told r.policy.timeout <;> rfl

/-- The question for the storages, in any state that a cluster can reach and any network. It succeeds if and only if every
member that is ready lists its storages in time, and then with all of their lists, one after another in the order of the
members, where each entry has its member's name and is otherwise as the worker put it. Else it fails with exactly those
that are ready and do not, each once, in order. Members that are not ready have no part in either. A call has to be given
some time, as it is by all settings (`Policy.nanos_ofSettings`): where it has none, even a member that is not asked is
told as timed out. -/
theorem storages_collects (policy : Policy) (common : CommonSettings) (net₀ : Network) (es : List Event) (net : Network)
    (limit : Nat) (htime : 0 < policy.timeout.nanos) :
    let r := ((start policy common net₀).run es).roster
    let within := min limit policy.timeout.nanos
    let outcome := (r.storages net limit).2.outcome
    ((∃ entries, outcome = .ok entries) ↔ ∀ n ∈ r.readyNodes, ∃ l, n.Lists net within l) ∧
    (∀ lists : Node → List StorageEntry, (∀ n ∈ r.readyNodes, n.Lists net within (lists n)) →
      outcome = .ok (r.readyNodes.flatMap fun n => (lists n).map ({ · with node := n.name }))) ∧
    ((¬ ∀ n ∈ r.readyNodes, ∃ l, n.Lists net within l) → ∃ error : Node → ClusterError,
      outcome = .error (.broadcast ((r.silent net within).map fun n => ⟨n.name, "list storages", (error n).text⟩)) ∧
      ∀ n ∈ r.silent net within, (n.storages net limit).2.outcome = .error (error n)) ∧
    (r.readyNodes.map Node.name).Nodup := by
  intro r within outcome
  have sound : r.Sound := sound_run policy common net₀ es
  have hpolicy : r.policy = policy := policy_run policy common net₀ es
  have hwithin : within = min limit r.policy.timeout.nanos := by rw [hpolicy]
  rw [← hpolicy] at htime
  have listed (lists : Node → List StorageEntry) (h : ∀ n ∈ r.readyNodes, n.Lists net within (lists n)) :
      outcome = .ok (r.readyNodes.flatMap fun n => (lists n).map ({ · with node := n.name })) :=
    Roster.storages_of_lists sound htime (hwithin ▸ h)
  have failed (h : ¬ ∀ n ∈ r.readyNodes, ∃ l, n.Lists net within l) : ∃ error : Node → ClusterError,
      outcome = .error (.broadcast ((r.silent net within).map fun n => ⟨n.name, "list storages", (error n).text⟩)) ∧
      ∀ n ∈ r.silent net within, (n.storages net limit).2.outcome = .error (error n) := by
    have hne : r.silent net within ≠ [] := fun hnil => h fun n hn => by
      simpa using List.filter_eq_nil_iff.mp hnil n hn
    rw [hwithin] at hne ⊢
    obtain ⟨error, herror, houtcome⟩ := Roster.storages_of_silent sound htime hne
    exact ⟨error, houtcome, herror⟩
  refine ⟨⟨?_, fun h => ?_⟩, listed, failed, sound.nodup_name.sublist (List.filter_sublist.map _)⟩
  · rintro ⟨entries, hok⟩
    by_contra hnot
    obtain ⟨error, houtcome, -⟩ := failed hnot
    cases hok.symm.trans houtcome
  · choose! lists hlists using h
    exact ⟨_, listed lists hlists⟩

/-- Three hosts with a worker each, whose engines have storages and call themselves otherwise than their nodes. -/
def storingHosts : Network :=
  let engine (kind : String) := { freshEngine [] with tag := "engine", storages := [Credential.lakeRegistration kind true] }
  { threeHosts with engines := [engine "s3", engine "gcs", engine "r2"] }

/-- Of three workers two list what they have, under the names of their nodes, and the one that is not ready is left out. -/
theorem storages_collects_ready : 0 < hastyPolicy.timeout.nanos ∧
    (threeMembers.storages storingHosts 2000).2.outcome =
      .ok [⟨"one", "lake", "s3", ["s3://lake"], "region=eu"⟩, ⟨"two", "lake", "gcs", ["s3://lake"], "region=eu"⟩] := by
  have htime : 0 < hastyPolicy.timeout.nanos := by decide
  have h := storages_collects hastyPolicy blankSettings twoHosts threeWorkers storingHosts 2000 htime
  let lists (n : Node) : List StorageEntry :=
    [⟨"engine", "lake", if n.name = "one" then "s3" else "gcs", ["s3://lake"], "region=eu"⟩]
  have hlists : ∀ n ∈ threeMembers.readyNodes, n.answer? storingHosts (min 2000 hastyPolicy.timeout.nanos) WorkerCall.storages
      (Json.readList StorageEntry.read) = some (lists n) := by decide +kernel
  have hall : (threeMembers.readyNodes.flatMap fun n => (lists n).map ({ · with node := n.name })) =
      [⟨"one", "lake", "s3", ["s3://lake"], "region=eu"⟩, ⟨"two", "lake", "gcs", ["s3://lake"], "region=eu"⟩] := by
    decide +kernel
  refine ⟨htime, ?_⟩
  rw [← hall]
  exact h.2.1 lists fun n hn => Node.answer?_eq_some_iff.mp (hlists n hn)

end Cluster

end Muster
