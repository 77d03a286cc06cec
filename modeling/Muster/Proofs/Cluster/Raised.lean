import Muster.Proofs.Cluster.Inquiry
import Muster.Proofs.Cluster.UnderWay
import Muster.Proofs.Node.Raised

/-! # Errors of engines, as the cluster tells them

The error that a member's engine raises is told under the member's name, with the text that it was raised with: in the
failures of a mutation, in the row of a question, and in what is known of the member once its check has ended. -/

namespace Muster

open Worker

variable {α : Type} {net : Network} {limit : Nat} {chain : List String} {n : Node}

theorem Mutation.asks_eq_false {m : Mutation} {call : Call Unit} (h : m.call = .ok call) :
    asks call.method = false := by
  cases m with
  | registerStorage credential =>
    obtain ⟨registration, -, rfl⟩ := map_eq_ok h
    rfl
  | _ =>
    obtain rfl := Except.ok.inj h
    rfl

namespace Roster

variable {r : Roster} {nodes : List Node} {e : ClusterError}

/-! ### What is told under one name -/

/-- Where no two nodes share a name, one thing is told under it. -/
theorem filter_told (hnodup : (nodes.map Node.name).Nodup) (hn : n ∈ nodes) (tell : Node → Except ClusterError α) :
    (nodes.map fun k => (k.name, tell k)).filter (·.1 = n.name) = [(n.name, tell n)] := by
  induction nodes with
  | nil => cases hn
  | cons k nodes ih =>
    obtain ⟨hfresh, hnodup⟩ := List.nodup_cons.mp hnodup
    rw [List.map_cons]
    rcases List.mem_cons.mp hn with rfl | hn
    · have hothers : (nodes.map fun k => (k.name, tell k)).filter (·.1 = n.name) = [] := by
        refine List.filter_eq_nil_iff.mpr (List.forall_mem_map.mpr fun k hk => ?_)
        have hne : k.name ≠ n.name := fun heq => hfresh (List.mem_map.mpr ⟨k, hk, heq⟩)
        simpa using hne
      rw [List.filter_cons_of_pos (by simp), hothers]
    · have hne : k.name ≠ n.name := fun heq => hfresh (heq ▸ List.mem_map_of_mem hn)
      rw [List.filter_cons_of_neg (by simpa using hne), ih hnodup hn]

theorem filter_failures (action name : String) (told : List (Told α)) :
    (failures action told).filter (·.node = name) = failures action (told.filter (·.1 = name)) := by
  unfold failures
  rw [List.filter_filterMap, List.filterMap_filter]
  refine congrArg (List.filterMap · told) (funext fun x => ?_)
  obtain ⟨k, e | a⟩ := x
  · by_cases hk : k = name <;> simp [hk]
  · simp

theorem filter_reports (name : String) (told : List (Told String)) :
    (told.map report).filter (·.node = name) = (told.filter (·.1 = name)).map report := by
  have hname (x : Told String) : (report x).node = x.1 := by
    obtain ⟨k, _ | _⟩ := x <;> rfl
  rw [List.filter_map]
  exact congrArg _ (List.filter_congr fun x _ => by rw [Function.comp_apply, hname])

/-- One error fails the whole, and is the only failure under the name of its node. -/
theorem verdict_of_error (hnodup : (nodes.map Node.name).Nodup) (hn : n ∈ nodes) (action : String)
    (tell : Node → Except ClusterError α) (h : tell n = .error e) :
    ∃ fs, verdict action (nodes.map fun k => (k.name, tell k)) = .error (.broadcast fs) ∧
      fs.filter (·.node = n.name) = [⟨n.name, action, e.text⟩] := by
  have hfilter : (failures action (nodes.map fun k => (k.name, tell k))).filter (·.node = n.name) =
      [⟨n.name, action, e.text⟩] := by
    rw [filter_failures, filter_told hnodup hn, h]
    rfl
  refine ⟨_, ?_, hfilter⟩
  have hne : ¬ (failures action (nodes.map fun k => (k.name, tell k))).isEmpty = true := by
    intro hempty
    rw [List.isEmpty_iff.mp hempty] at hfilter
    cases hfilter
  exact if_neg hne

/-- What is told of a call to a ready member that raises an error. -/
theorem Sound.told_of_raised (h : r.Sound) (hn : n ∈ r.memberNodes) (hready : n.isReady = true) {call : Call α}
    {text : List String → String} (hcarries : call.Carries text) (hmethod : call.method ≠ "HEAD")
    (hraised : n.raised? net (min limit r.policy.timeout.nanos) call = some chain) :
    (n.relay net limit call).2.told r.policy.timeout = .error (.worker (text chain)) := by
  have hpolicy : n.policy = r.policy := (h.made_member hn).1
  rw [← hpolicy] at hraised ⊢
  exact Node.told_of_raised hcarries hmethod hready hraised

variable {m : Mutation} {call : Call Unit} {source : String}

/-- The error that a mutation raises at a member is the member's failure, as it was raised. -/
theorem Sound.mutate_of_raised (h : r.Sound) (hn : n ∈ r.memberNodes) (hready : n.isReady = true)
    (hcall : m.call = .ok call)
    (hraised : n.raised? net (min limit r.policy.timeout.nanos) call = some chain) :
    ∃ fs, (r.mutate net limit m).2.outcome = .error (.broadcast fs) ∧
      fs.filter (·.node = n.name) = [⟨n.name, m.action, chainText chain.reverse⟩] := by
  have hasks := Mutation.asks_eq_false hcall
  have hmethod : call.method ≠ "HEAD" := fun hhead => nomatch (show asks "HEAD" = false from hhead ▸ hasks)
  have hcarries := Call.carries_of_change (Mutation.read_call hcall) hasks
  have htold := h.told_of_raised hn hready hcarries hmethod hraised
  rw [outcome_mutate_eq hcall]
  exact verdict_of_error h.nodup_name hn m.action (fun n => (n.relay net limit call).2.told r.policy.timeout) htold

/-- The error that the question for a data source raises at a member stands in the member's row. -/
theorem Sound.status_of_raised (h : r.Sound) (hn : n ∈ r.memberNodes) (hready : n.isReady = true)
    (hraised : n.raised? net (min limit r.policy.timeout.nanos) (WorkerCall.status source) = some chain) :
    (r.status net limit source).2.2.filter (·.node = n.name) = [⟨n.name, "error", askedText chain⟩] := by
  have hmethod : (WorkerCall.status source).method ≠ "HEAD" := show "GET" ≠ "HEAD" by decide
  have htold := h.told_of_raised hn hready (Call.carries_of_question rfl) hmethod hraised
  show ((r.fanOut net fun n net => n.relay net limit (WorkerCall.status source)).2.2.map report).filter _ = _
  rw [told_relays, filter_reports, filter_told h.nodup_name hn, htold]
  rfl

/-- The error that the question for the storages raises at a member is the member's failure. -/
theorem Sound.storages_of_raised (h : r.Sound) (hn : n ∈ r.memberNodes) (hready : n.isReady = true)
    (hraised : n.raised? net (min limit r.policy.timeout.nanos) WorkerCall.storages = some chain) :
    ∃ fs, (r.storages net limit).2.outcome = .error (.broadcast fs) ∧
      fs.filter (·.node = n.name) = [⟨n.name, "list storages", askedText chain⟩] := by
  have htime : 0 < r.policy.timeout.nanos := by
    obtain ⟨i, c, -, hlt, -⟩ := Node.raised?_eq_some hraised
    omega
  have hpolicy : n.policy = r.policy := (h.made_member hn).1
  have hmethod : WorkerCall.storages.method ≠ "HEAD" := show "GET" ≠ "HEAD" by decide
  have htold := h.told_of_raised hn hready (Call.carries_of_question rfl) hmethod hraised
  rw [← hpolicy, Node.told_eq_outcome (hpolicy ▸ htime)] at htold
  have houtcome : (n.storages net limit).2.outcome = .error (.worker (askedText chain)) := by
    rw [n.outcome_storages, htold]
    rfl
  have hnodup : (r.readyNodes.map Node.name).Nodup := h.nodup_name.sublist (List.filter_sublist.map _)
  obtain ⟨fs, hverdict, hfs⟩ := verdict_of_error hnodup (mem_readyNodes.mpr ⟨hn, hready⟩) "list storages"
    (fun n => (n.storages net limit).2.outcome) houtcome
  refine ⟨fs, ?_, hfs⟩
  rw [outcome_storages h htime, hverdict]
  rfl

end Roster

/-! ### Checks -/

/-- A check that waits for an engine has asked it something, and the whole answer comes back. -/
def Pending.Asking (p : Pending) : Prop :=
  ∀ url i c headOnly, p = .sent url (.command i c headOnly) → c.asks = true ∧ headOnly = false

theorem Client.asking_launch (client : Client) (net : Network) (within : Nat) :
    (client.launch net within WorkerCall.ping).2.2.Asking := by
  intro url i c headOnly h
  exact command_of_launch (show "GET" ≠ "HEAD" by decide) h

namespace Node.Happening

variable {x : Node.Happening}

/-- The chain of causes that the check raises that ends, if it waited for an engine and the engine fails it. -/
def raised? (x : Node.Happening) : Option (List String) :=
  match x.ending? with
  | some ⟨_, _, .sent _ (.command i c _)⟩ => x.net.failure? i c
  | _ => none

theorem raised?_eq_some (h : x.raised? = some chain) : ∃ d url i c headOnly, x.ending? = some d ∧
    d.result = .sent url (.command i c headOnly) ∧ x.net.failure? i c = some chain := by
  unfold raised? at h
  split at h
  · next started ends url i c headOnly hd => exact ⟨_, url, i, c, headOnly, hd, rfl, h⟩
  · cases h

/-- The error that a check raises is what is known of the node once the check has ended. -/
theorem error_of_raised (hasking : ∀ d, x.ending? = some d → d.result.Asking) (h : x.raised? = some chain) :
    x.outcome.2.2.health.error = some (askedText chain) ∧ x.outcome.2.2.row.error = askedText chain := by
  obtain ⟨d, url, i, c, headOnly, hd, hresult, hfail⟩ := raised?_eq_some h
  obtain ⟨hasks, rfl⟩ := hasking d hd _ _ _ _ hresult
  have hland : (d.result.land x.net WorkerCall.ping).2 =
      WorkerCall.ping.outcome url (.answered (delivered c false (.failed chain)).onWire) := by
    rw [hresult, ← Network.land_of_failure hfail]
    rfl
  have hcarries : WorkerCall.ping.Carries askedText := Call.carries_of_question rfl
  have herror : x.outcome.2.2.health.error = some (askedText chain) := by
    rw [health_outcome hd, hland, hcarries x.node c chain url hasks]
    rfl
  refine ⟨herror, ?_⟩
  show x.outcome.2.2.health.error.getD "" = _
  rw [herror, Option.getD_some]

end Node.Happening

namespace Cluster

/-- The error of a member's engine arrives as it was raised, in any state that a cluster can reach and any network.
Where a mutation is taken in time by the worker of a member that is ready, and its engine fails it with a chain of
causes, the failure of that member has the text of the chain. Where a question is, the member's row, or its failure, has
that text without the blanks at its ends, or the status if nothing remains. The same is known of a node and listed in its
row once a check has ended that the engine failed, which was taken in time and waited for the engine. -/
theorem errors_arrive (policy : Policy) (common : CommonSettings) (net₀ : Network) (es : List Event) :
    let r := ((start policy common net₀).run es).roster
    (∀ (net : Network) (limit : Nat), ∀ n ∈ r.memberNodes, n.isReady = true →
      let within := min limit policy.timeout.nanos
      (∀ m call chain, m.call = .ok call → n.raised? net within call = some chain → ∃ fs,
        (r.mutate net limit m).2.outcome = .error (.broadcast fs) ∧
        fs.filter (·.node = n.name) = [⟨n.name, m.action, chainText chain.reverse⟩]) ∧
      (∀ source chain, n.raised? net within (WorkerCall.status source) = some chain →
        (r.status net limit source).2.2.filter (·.node = n.name) = [⟨n.name, "error", askedText chain⟩]) ∧
      (∀ chain, n.raised? net within WorkerCall.storages = some chain → ∃ fs,
        (r.storages net limit).2.outcome = .error (.broadcast fs) ∧
        fs.filter (·.node = n.name) = [⟨n.name, "list storages", askedText chain⟩])) ∧
    ∀ id, ∀ x ∈ (start policy common net₀).happenedIn id es, ∀ chain, x.raised? = some chain →
      x.outcome.2.2.health.error = some (askedText chain) ∧ x.outcome.2.2.row.error = askedText chain := by
  intro r
  have sound : r.Sound := sound_run policy common net₀ es
  have hpolicy : r.policy = policy := policy_run policy common net₀ es
  refine ⟨fun net limit n hn hready => ?_, fun id x hx chain hraised => ?_⟩
  · intro within
    have hwithin : within = min limit r.policy.timeout.nanos := by rw [hpolicy]
    rw [hwithin]
    exact ⟨fun m call chain hcall => sound.mutate_of_raised hn hready hcall, fun source chain =>
      sound.status_of_raised hn hready, fun chain => sound.storages_of_raised hn hready⟩
  · exact Node.Happening.error_of_raised (ending_run Client.asking_launch (Roster.empty_sound policy common)
      (fun n hn => (by cases hn)) es id x hx) hraised

/-- A chain of causes, innermost first, with line breaks and blanks at its ends. -/
def unwieldy : List String := ["disk \"1\"\n", "größe", " no room "]

/-- Three hosts with a worker each, of which the first fails all that it is asked for by members that are ready, and the
second fails its checks. -/
def raisingHosts : Network :=
  { threeHosts with
    engines :=
      [freshEngine [("load", unwieldy), ("status", unwieldy), ("storages", [" \n"])],
        freshEngine [("version", unwieldy)], freshEngine []] }

/-- Three workers are enrolled and checked once. -/
def raisingWorkers : List Event := threeWorkers ++ [.passed 1500]

theorem errors_arrive_unwieldy :
    let r := ((start hastyPolicy blankSettings raisingHosts).run raisingWorkers).roster
    (∃ fs, (r.mutate raisingHosts 2000 (.load "sales")).2.outcome = .error (.broadcast fs) ∧
      fs.filter (·.node = "one") = [⟨"one", "load data source sales", " no room : größe: disk \"1\"\n"⟩]) ∧
    (r.status raisingHosts 2000 "sales").2.2.filter (·.node = "one") =
      [⟨"one", "error", "no room : größe: disk \"1\""⟩] ∧
    (∃ fs, (r.storages raisingHosts 2000).2.outcome = .error (.broadcast fs) ∧
      fs.filter (·.node = "one") = [⟨"one", "list storages", "500 Internal Server Error"⟩]) ∧
    ∃ x ∈ (start hastyPolicy blankSettings raisingHosts).happenedIn 1 raisingWorkers,
      x.outcome.2.2.row.error = "no room : größe: disk \"1\"" := by
  intro r
  obtain ⟨hcommands, hchecks⟩ := errors_arrive hastyPolicy blankSettings raisingHosts raisingWorkers
  have htold : chainText unwieldy.reverse = " no room : größe: disk \"1\"\n" := by decide
  have hasked : askedText unwieldy = "no room : größe: disk \"1\"" ∧ askedText [" \n"] = "500 Internal Server Error" := by
    decide
  have hone : ∃ n ∈ r.memberNodes, n.name = "one" ∧ n.isReady = true ∧
      n.raised? raisingHosts (min 2000 hastyPolicy.timeout.nanos) (WorkerCall.load "sales") = some unwieldy ∧
      n.raised? raisingHosts (min 2000 hastyPolicy.timeout.nanos) (WorkerCall.status "sales") = some unwieldy ∧
      n.raised? raisingHosts (min 2000 hastyPolicy.timeout.nanos) WorkerCall.storages = some [" \n"] := by
    decide +kernel
  have htwo : some unwieldy ∈
      ((start hastyPolicy blankSettings raisingHosts).happenedIn 1 raisingWorkers).map Node.Happening.raised? := by
    decide +kernel
  obtain ⟨n, hn, hname, hready, hload, hstatus, hstorages⟩ := hone
  obtain ⟨x, hx, hraised⟩ := List.mem_map.mp htwo
  obtain ⟨mutated, asked, listed⟩ := hcommands raisingHosts 2000 n hn hready
  rw [← htold, ← hasked.1, ← hasked.2, ← hname]
  exact ⟨mutated (.load "sales") _ _ rfl hload, asked _ _ hstatus, listed _ hstorages, x, hx,
    (hchecks 1 x hx _ hraised).2⟩

end Cluster

end Muster
