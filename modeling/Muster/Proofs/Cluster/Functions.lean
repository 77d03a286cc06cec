import Muster.Cluster.Query
import Muster.Proofs.Cluster.Remote
import Muster.Proofs.Cluster.Sweep

/-! # What calls of functions come to

Whatever is behind the address of the management node, a function that a query calls with arguments that it does not
take fails and asks nobody. Any other sends one request, or none if the address takes no requests, and keeps to one of
three disciplines: a mutation always has a result, which tells of success just if an answer of success was heard in time;
the question for the version always has a text, which is empty if none was told; any other question has the list that was
told, or fails. -/

namespace Muster

open Json Worker

/-! ### Arguments -/

/-- The arguments that a function takes: none, one text, or the document of a credential. -/
def Worker.Function.Accepts (arguments : List Value) : Function → Prop
  | .version | .nodes | .registeredStorages => arguments = []
  | .registerStorage => ∃ v c, arguments = [v] ∧ v.decodeAs Credential.read = .ok c
  | .dataSourceStatus | .loadDataSource | .unloadDataSource | .unregisterStorage => ∃ s, arguments = [.string s]

namespace Query

variable {name : String} {arguments : List Value} {f : Function} {q : Query}

/-- The function that a query calls. -/
def function : Query → Function
  | .version => .version
  | .nodes => .nodes
  | .status _ => .dataSourceStatus
  | .load _ => .loadDataSource
  | .unload _ => .unloadDataSource
  | .registerStorage _ => .registerStorage
  | .unregisterStorage _ => .unregisterStorage
  | .storages => .registeredStorages

theorem ofArguments_registerStorage {v : Value} {c : Credential} (h : v.decodeAs Credential.read = .ok c) :
    ofArguments .registerStorage [v] = .ok (.registerStorage c) := by
  simp [ofArguments, Function.arity, h]

theorem ofArguments_registerStorage_error {v : Value} {e : Fault} (h : v.decodeAs Credential.read = .error e) :
    ofArguments .registerStorage [v] = .error (.invalidCredential .registerStorage) := by
  simp [ofArguments, Function.arity, h]

/-- Arguments make a query just if the function takes them. -/
theorem ofArguments_of_accepts (h : f.Accepts arguments) : ∃ q, ofArguments f arguments = .ok q ∧ q.function = f := by
  cases f with
  | version | nodes | registeredStorages =>
    obtain rfl : arguments = [] := h
    exact ⟨_, rfl, rfl⟩
  | registerStorage =>
    obtain ⟨v, c, rfl, hread⟩ := h
    exact ⟨.registerStorage c, ofArguments_registerStorage hread, rfl⟩
  | _ =>
    obtain ⟨s, rfl⟩ := h
    exact ⟨_, rfl, rfl⟩

theorem accepts_of_ofArguments (h : ofArguments f arguments = .ok q) : f.Accepts arguments := by
  have hlength : arguments.length = f.arity := by
    by_contra hne
    have hrefused : ofArguments f arguments = .error (.argumentCount f arguments.length) := if_pos hne
    cases hrefused.symm.trans h
  rcases arguments with _ | ⟨v, _ | ⟨w, rest⟩⟩
  · cases f with
    | version | nodes | registeredStorages => rfl
    | _ => cases hlength
  · cases f with
    | version | nodes | registeredStorages => cases hlength
    | registerStorage =>
      cases hread : v.decodeAs Credential.read with
      | ok c => exact ⟨v, c, rfl, hread⟩
      | error e => cases (ofArguments_registerStorage_error hread).symm.trans h
    | _ =>
      cases v with
      | string s => exact ⟨s, rfl⟩
      | _ => cases h
  · have harity : f.arity ≤ 1 := by cases f <;> decide
    rw [← hlength] at harity
    exact absurd harity (by simp)

theorem read_eq_error (h : ¬ ∃ f, Function.ofName? name = some f ∧ f.Accepts arguments) :
    ∃ e, Query.read name arguments = .error e := by
  cases hread : Query.read name arguments with
  | error e => exact ⟨e, rfl⟩
  | ok q =>
    unfold Query.read at hread
    split at hread
    · cases hread
    · next f hf => exact absurd ⟨f, hf, accepts_of_ofArguments hread⟩ h

end Query

/-! ### Answers -/

/-- The answer of success that a request has. -/
def Exchange.success? : Exchange → Option Http.Response
  | .answered r => if r.isSuccess then some r else none
  | _ => none

/-- The request of a call, if one can be made. -/
def Client.request? {α : Type} (client : Client) (call : Call α) : Option Outgoing :=
  (client.request call).toOption

/-- The request of a query, if one can be made. -/
def Query.request? (client : Client) (q : Query) : Option Outgoing :=
  match q with
  | .version => client.request? Uplink.askVersion
  | .nodes => client.request? Uplink.askNodes.call
  | .status name => client.request? (Uplink.askStatus name).call
  | .load name => client.request? (Uplink.load name).call
  | .unload name => client.request? (Uplink.unload name).call
  | .registerStorage c => client.request? (Uplink.registerStorage c).call
  | .unregisterStorage name => client.request? (Uplink.unregisterStorage name).call
  | .storages => client.request? Uplink.askStorages.call

section
variable {α : Type} {client : Client} {call : Call α}

theorem Call.toOption_outcome (call : Call α) (url : Url) (x : Exchange) :
    (call.outcome url x).toOption = x.success?.bind fun r => (call.read r).toOption := by
  cases x with
  | answered r =>
    cases hsuccess : r.isSuccess with
    | false =>
      rw [call.outcome_of_refusal url hsuccess, Exchange.success?, hsuccess]
      rfl
    | true =>
      rw [call.outcome_of_success url hsuccess, Exchange.success?, hsuccess]
      cases hread : call.read r <;> simp [Except.toOption, hread]
  | _ => rfl

theorem Client.request?_eq_none : client.request? call = none ↔ client.base.takesRequests = false := by
  constructor
  · intro hnone
    by_contra htakes
    obtain ⟨o, ho⟩ := client.request_of_takes call (by simpa using htakes)
    rw [request?, ho] at hnone
    cases hnone
  · intro hbars
    cases ho : client.request call with
    | error e =>
      rw [request?, ho]
      rfl
    | ok o => cases hbars.symm.trans (takes_of_request ho)

theorem Client.server_of_request? {o : Outgoing} (h : client.request? call = some o) :
    o.url.server = client.base.server := by
  unfold request? at h
  cases ho : client.request call with
  | error e =>
    rw [ho] at h
    cases h
  | ok o' =>
    rw [ho] at h
    obtain rfl := Option.some.inj h
    exact server_of_request ho

theorem Query.request?_eq_none (q : Query) : q.request? client = none ↔ client.base.takesRequests = false := by
  cases q <;> exact Client.request?_eq_none

theorem Query.server_of_request? (q : Query) {o : Outgoing} (h : q.request? client = some o) :
    o.url.server = client.base.server := by
  cases q <;> exact Client.server_of_request? h

end

namespace Cluster

variable {α : Type} {c : Cluster} {u : Uplink} {within : Nat} {o : Outgoing}

/-- A request to another host than the management node's leaves the cluster as it is but for the network. -/
theorem send_elsewhere (h : ∀ secret, c.net.serviceOf o ≠ some (.management secret)) (within : Nat) :
    c.send within o =
      ⟨{ c with net := (c.net.send within o).1 }, (c.net.send within o).2.1, (c.net.send within o).2.2⟩ := by
  unfold send
  unfold Network.serviceOf at h
  split
  · next secret hservice => exact absurd hservice (h secret)
  · rfl

/-- What is answered is answered in time. -/
theorem after_of_answered {r : Http.Response} (h : (c.send within o).result = .answered r) :
    (c.send within o).after < within := by
  by_cases hmanagement : ∃ secret, c.net.serviceOf o = some (.management secret)
  · obtain ⟨secret, hservice⟩ := hmanagement
    rw [send_of_management hservice] at h ⊢
    dsimp only at h ⊢
    split at h
    · next hlt =>
      rw [if_pos hlt]
      exact hlt
    · cases h
  · rw [send_elsewhere (not_exists.mp hmanagement)] at h ⊢
    have hreply := c.net.send_reply within o
    split at hreply
    · next hlt =>
      rw [hreply]
      exact hlt
    · rw [hreply] at h
      cases h

/-- The answer of success that comes to a worker before it gives up, if it sends a request and there is one. -/
def heard? (c : Cluster) (u : Uplink) (request : Option Outgoing) : Option Http.Response :=
  request.bind fun o =>
    let x := c.send u.timeout.nanos o
    if x.after < u.timeout.nanos then x.result.success? else none

theorem heard?_some (c : Cluster) (u : Uplink) (o : Outgoing) :
    c.heard? u (some o) = (c.send u.timeout.nanos o).result.success? := by
  show (if (c.send u.timeout.nanos o).after < u.timeout.nanos then _ else none) = _
  by_cases hlt : (c.send u.timeout.nanos o).after < u.timeout.nanos
  · rw [if_pos hlt]
  · rw [if_neg hlt]
    cases hresult : (c.send u.timeout.nanos o).result with
    | answered r => exact absurd (after_of_answered hresult) hlt
    | _ => rfl

/-- What a worker's call comes to is read from the answer of success that was heard. -/
theorem toOption_call (c : Cluster) (u : Uplink) (call : Call α) : (c.call u call).result.toOption =
    (c.heard? u (u.client.request? call)).bind fun r => (call.read r).toOption := by
  unfold Cluster.call Client.request?
  cases u.client.request call with
  | error e => rfl
  | ok o =>
    show (call.outcome o.url (c.send u.timeout.nanos o).result).toOption = (c.heard? u (some o)).bind _
    rw [heard?_some, call.toOption_outcome]

/-- A worker's call sends its one request, if it has one. -/
theorem cluster_call (c : Cluster) (u : Uplink) (call : Call α) : (c.call u call).cluster =
    match u.client.request? call with
    | some o => (c.send u.timeout.nanos o).cluster
    | none => c := by
  unfold Cluster.call Client.request?
  cases u.client.request call <;> rfl

/-! ### Disciplines -/

/-- The list that was told, or a failure if none was. -/
def Lists {β : Type} (read : Decoder β) (encode : β → Value) (heard : Option Http.Response)
    (x : Except QueryError Value) : Prop :=
  match heard.bind fun r => (Json.decode (readList read) r.body).toOption with
  | some l => x = .ok (.array (l.map encode))
  | none => ∃ text, x = .error (.failed text)

/-- What a query comes to, by the answer of success that was heard. -/
def Discipline (heard : Option Http.Response) : Query → Except QueryError Value → Prop
  | .version, x =>
    x = .ok (.string (((heard.bind fun r => (Json.decode VersionNotice.read r.body).toOption).map (·.version)).getD ""))
  | .nodes, x => Lists NodeStatus.read NodeStatus.encode heard x
  | .status _, x => Lists SourceReport.read SourceReport.encode heard x
  | .storages, x => Lists StorageEntry.read StorageEntry.encode heard x
  | .load _, x | .unload _, x | .registerStorage _, x | .unregisterStorage _, x =>
    ∃ result : CommandResult, x = .ok result.encode ∧ (result.success = true ↔ heard.isSome = true)

theorem toOption_readBody {β : Type} (read : Decoder β) (r : Http.Response) :
    (readBody read r).toOption = (Json.decode read r.body).toOption := by
  unfold readBody
  cases Json.decode read r.body <;> rfl

theorem result_ask (c : Cluster) (u : Uplink) (q : Question α) :
    (c.ask u q).result = (c.call u q.call).result.mapError q.failure := rfl

theorem lists_askFor {β : Type} {read : Decoder β} {q : Question (List β)}
    (hread : q.call.read = readBody (readList read)) (encode : β → Value) (c : Cluster) (u : Uplink) :
    Lists read encode (c.heard? u (u.client.request? q.call))
      (c.askFor u q fun l => .array (l.map encode)).result := by
  have htold : (c.call u q.call).result.toOption =
      (c.heard? u (u.client.request? q.call)).bind fun r => (Json.decode (readList read) r.body).toOption := by
    rw [toOption_call, hread]
    simp only [toOption_readBody]
  rw [Lists, ← htold]
  unfold askFor
  dsimp only
  rw [result_ask]
  cases (c.call u q.call).result with
  | ok l => rfl
  | error e => exact ⟨q.failure e, rfl⟩

theorem result_carryOut {q : Question Unit} (hread : q.call.read = fun _ => .ok ()) (c : Cluster) (u : Uplink)
    (done : String) : ∃ result : CommandResult, (c.carryOut u q done).result = .ok result.encode ∧
      (result.success = true ↔ (c.heard? u (u.client.request? q.call)).isSome = true) := by
  have htold : (c.call u q.call).result.toOption.isSome = (c.heard? u (u.client.request? q.call)).isSome := by
    rw [toOption_call, hread]
    cases c.heard? u (u.client.request? q.call) <;> rfl
  rw [← htold]
  unfold carryOut
  dsimp only
  rw [result_ask]
  cases (c.call u q.call).result with
  | ok a => exact ⟨_, rfl, fun _ => rfl, fun _ => rfl⟩
  | error e => exact ⟨_, rfl, nofun, nofun⟩

theorem result_versionFor (c : Cluster) (u : Uplink) : (c.versionFor u).result =
    (((c.heard? u (u.client.request? Uplink.askVersion)).bind fun r =>
      (Json.decode VersionNotice.read r.body).toOption).map (·.version)).getD "" := by
  have htold : (c.call u Uplink.askVersion).result.toOption =
      ((c.heard? u (u.client.request? Uplink.askVersion)).bind fun r =>
        (Json.decode VersionNotice.read r.body).toOption).map (·.version) := by
    rw [toOption_call, Option.map_bind]
    refine congrArg _ (funext fun r => ?_)
    show ((readBody VersionNotice.read r).map (·.version)).toOption = _
    rw [Function.comp_apply, ← toOption_readBody]
    cases readBody VersionNotice.read r <;> rfl
  rw [← htold]
  unfold versionFor
  dsimp only
  cases (c.call u Uplink.askVersion).result <;> rfl

/-- Every query keeps to its discipline. -/
theorem discipline_answer (c : Cluster) (u : Uplink) (q : Query) :
    Discipline (c.heard? u (q.request? u.client)) q (c.answer u q).result := by
  cases q with
  | version => exact congrArg (fun s => Except.ok (Value.string s)) (c.result_versionFor u)
  | nodes => exact lists_askFor rfl NodeStatus.encode c u
  | status name => exact lists_askFor rfl SourceReport.encode c u
  | storages => exact lists_askFor rfl StorageEntry.encode c u
  | load name => exact result_carryOut rfl c u _
  | unload name => exact result_carryOut rfl c u _
  | registerStorage credential => exact result_carryOut rfl c u _
  | unregisterStorage name => exact result_carryOut rfl c u _

/-- A query does to the cluster what its one request does, if it has one. -/
theorem cluster_answer (c : Cluster) (u : Uplink) (q : Query) : (c.answer u q).cluster =
    match q.request? u.client with
    | some o => (c.send u.timeout.nanos o).cluster
    | none => c := by
  cases q <;> exact c.cluster_call u _

section
variable {name : String} {arguments : List Value} {q : Query} {e : QueryError}

theorem callFunction_of_read (h : Query.read name arguments = .ok q) :
    c.callFunction u name arguments = c.answer u q := by
  unfold callFunction
  rw [h]

theorem callFunction_of_error (h : Query.read name arguments = .error e) :
    c.callFunction u name arguments = ⟨c, 0, .error e⟩ := by
  unfold callFunction
  rw [h]

end

/-- The call of a function, in any cluster and any network and with any uplink. If there is no such function, or it does
not take the arguments, the call fails and leaves everything as it was. Otherwise it makes a query, which sends one
request to the host of the uplink's address, or none if the address takes no requests, and nothing else happens; and it
keeps to the function's discipline, by the answer of success that comes in time. Requests are assumed to keep within the
sizes that the transport takes. -/
theorem callFunction_disciplined (c : Cluster) (u : Uplink) (name : String) (arguments : List Value) :
    let x := c.callFunction u name arguments
    ((¬ ∃ f, Function.ofName? name = some f ∧ f.Accepts arguments) → ∃ e, x = ⟨c, 0, .error e⟩) ∧
    ∀ f, Function.ofName? name = some f → f.Accepts arguments →
      ∃ q, Query.read name arguments = .ok q ∧ q.function = f ∧
        let request := q.request? u.client
        (request = none ↔ u.client.base.takesRequests = false) ∧
        (request = none → x.cluster = c) ∧
        (∀ o, request = some o → o.url.server = u.client.base.server ∧
          x.cluster = (c.send u.timeout.nanos o).cluster ∧
          ((∀ secret, c.net.serviceOf o ≠ some (.management secret)) → x.cluster.net.arrived =
            c.net.arrived ++ if (c.net.serviceOf o).isSome then [⟨o.url.server, o.request⟩] else [])) ∧
        Discipline (c.heard? u request) q x.result := by
  intro x
  refine ⟨fun hnot => ?_, fun f hname haccepts => ?_⟩
  · obtain ⟨e, he⟩ := Query.read_eq_error hnot
    exact ⟨e, callFunction_of_error he⟩
  · obtain ⟨q, hq, hfunction⟩ := Query.ofArguments_of_accepts haccepts
    have hread : Query.read name arguments = .ok q := by
      unfold Query.read
      rw [hname]
      exact hq
    have hx : x = c.answer u q := callFunction_of_read hread
    have hcluster := c.cluster_answer u q
    refine ⟨q, hread, hfunction, q.request?_eq_none, fun hnone => ?_, fun o ho => ?_, hx ▸ c.discipline_answer u q⟩
    · rw [hx, hcluster, hnone]
    · have hsent : x.cluster = (c.send u.timeout.nanos o).cluster := by rw [hx, hcluster, ho]
      refine ⟨q.server_of_request? ho, hsent, fun helsewhere => ?_⟩
      rw [hsent, send_elsewhere helsewhere]
      exact Network.arrived_send c.net u.timeout.nanos o

/-- A cluster at its beginning, in the place of whose management node somebody answers everything with an empty list. -/
def listless : Cluster :=
  start hastyPolicy blankSettings
    { connected := true
      services := [("[::1]:90", .stub (.json (.array [])) 5)]
      engines := []
      engineOf := []
      arrived := [] }

theorem callFunction_disciplined_listless :
    (∃ e, listless.callFunction patientUplink "core_cluster_load_data_source" [.null] = ⟨listless, 0, .error e⟩) ∧
    (∃ result : CommandResult, (listless.callFunction patientUplink "core_cluster_load_data_source"
      [.string "sales"]).result = .ok result.encode ∧ result.success = true) ∧
    (listless.callFunction patientUplink "core_cluster_version" []).result = .ok (.string "") ∧
    (listless.callFunction patientUplink "core_cluster_nodes" []).result = .ok (.array []) := by
  have hload : Function.ofName? "core_cluster_load_data_source" = some .loadDataSource := by decide
  have hrefused : ¬ ∃ f, Function.ofName? "core_cluster_load_data_source" = some f ∧ f.Accepts [.null] := by
    rintro ⟨f, hf, haccepts⟩
    obtain rfl := Option.some.inj (hload.symm.trans hf)
    obtain ⟨s, hs⟩ := haccepts
    cases hs
  have heard (q : Query) (h : q = .load "sales" ∨ q = .version ∨ q = .nodes) :
      listless.heard? patientUplink (q.request? patientUplink.client) = some (.json (.array [])) := by
    rcases h with rfl | rfl | rfl <;> decide +kernel
  refine ⟨(callFunction_disciplined listless patientUplink _ _).1 hrefused, ?_, ?_, ?_⟩
  · obtain ⟨q, hq, -, -, -, -, hdiscipline⟩ :=
      (callFunction_disciplined listless patientUplink _ [.string "sales"]).2 _ hload ⟨"sales", rfl⟩
    obtain rfl : .load "sales" = q := Except.ok.inj hq
    obtain ⟨result, hresult, hsuccess⟩ := hdiscipline
    exact ⟨result, hresult, hsuccess.mpr (by rw [heard _ (.inl rfl)]; rfl)⟩
  · obtain ⟨q, hq, -, -, -, -, hdiscipline⟩ :=
      (callFunction_disciplined listless patientUplink "core_cluster_version" []).2 .version (by decide) rfl
    obtain rfl : .version = q := Except.ok.inj hq
    rw [heard _ (.inr (.inl rfl))] at hdiscipline
    have hversion : (((Json.decode VersionNotice.read (Http.Response.json (.array [])).body).toOption.map
        VersionNotice.version).getD "") = "" := by decide +kernel
    exact hdiscipline.trans (congrArg (fun s => Except.ok (Value.string s)) hversion)
  · obtain ⟨q, hq, -, -, -, -, hdiscipline⟩ :=
      (callFunction_disciplined listless patientUplink "core_cluster_nodes" []).2 .nodes (by decide) rfl
    obtain rfl : .nodes = q := Except.ok.inj hq
    rw [heard _ (.inr (.inr rfl))] at hdiscipline
    have hnodes : (Json.decode (readList NodeStatus.read) (Http.Response.json (.array [])).body).toOption = some [] := by
      decide +kernel
    have hlists : Lists NodeStatus.read NodeStatus.encode (some (.json (.array []))) _ := hdiscipline
    unfold Lists at hlists
    rw [Option.bind_some, hnodes] at hlists
    exact hlists

end Cluster

end Muster
