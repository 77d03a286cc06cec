import Muster.Proofs.Document.Credential
import Muster.Proofs.Network.Apart
import Muster.Proofs.Network.Secret
import Muster.Proofs.Node.Taken

/-! # Workers below addresses

A worker that serves its routes right below the address of a node, with the secret that the node's client has, takes the
request to register a storage as the command to register the very document that was sent. No other worker takes it as any
command. -/

namespace Muster

open Worker Http

/-! ### Mounts -/

section
variable {mount : String} {front p : List Char}

theorem belowMount_front (h : front = mount.toList) (p : List Char) :
    belowMount mount (front ++ '/' :: p) = some ('/' :: p) := by
  subst h
  refine belowMount_eq_some_iff.mpr ?_
  by_cases hmount : mount = ""
  · exact Or.inl ⟨hmount, by rw [hmount]; rfl⟩
  · exact Or.inr ⟨hmount, _, rfl, Or.inr ⟨rfl, p, rfl⟩⟩

/-- What is left of a path below a mount tells the mount. -/
theorem front_of_belowMount (hp : p ≠ []) (h : belowMount mount (front ++ '/' :: p) = some ('/' :: p)) :
    front = mount.toList := by
  rcases belowMount_eq_some_iff.mp h with ⟨rfl, hpath⟩ | ⟨-, r, hpath, ⟨-, hroot⟩ | ⟨rfl, -⟩⟩
  · exact List.append_left_eq_self.mp hpath
  · exact absurd (List.cons.inj hroot).2 hp
  · exact List.append_cancel_right hpath

end

namespace Network

variable {net : Network} {base : Url} {secret : String} {i : Nat}

/-- A worker serves its routes right below an address, with a secret and an engine. -/
def mounts (net : Network) (base : Url) (secret : String) (i : Nat) : Bool :=
  net.connected && base.takesRequests &&
    match net.services.lookup base.server with
    | some (.worker mount secret' i') =>
      (Url.Path.segments base.stem).print = mount.toList && (secret' = secret && i' = i)
    | _ => false

theorem mounts_iff : net.mounts base secret i = true ↔ net.connected = true ∧ base.takesRequests = true ∧
    ∃ mount, net.services.lookup base.server = some (.worker mount secret i) ∧
      (Url.Path.segments base.stem).print = mount.toList := by
  unfold mounts
  rw [Bool.and_eq_true, Bool.and_eq_true, and_assoc]
  refine and_congr_right fun _ => and_congr_right fun _ => ?_
  rcases net.services.lookup base.server with _ | _ | ⟨mount, secret', i'⟩ | _
  · simp
  · simp
  · simp only [Bool.and_eq_true, decide_eq_true_eq, Option.some.injEq, Service.worker.injEq]
    constructor
    · rintro ⟨hmount, rfl, rfl⟩
      exact ⟨mount, ⟨rfl, rfl, rfl⟩, hmount⟩
    · rintro ⟨mount', ⟨rfl, rfl, rfl⟩, hmount⟩
      exact ⟨hmount, rfl, rfl⟩
  · simp

theorem mounts_congr {a b : Network} (hc : a.connected = b.connected) (hs : a.services = b.services) (base : Url)
    (secret : String) (i : Nat) : a.mounts base secret i = b.mounts base secret i := by
  rw [mounts, mounts, hc, hs]

/-- What a request does to the engines that a worker takes as a command. -/
theorem engines_send_of_command {o : Outgoing} {mount : String} {path : List Char} {c : Command} {headOnly : Bool}
    (hservice : net.serviceOf o = some (.worker mount secret i)) (hmount : belowMount mount o.request.path = some path)
    (hhandle : handle secret { o.request with path := path } = .command c headOnly) (within : Nat) :
    (net.send within o).1.engines = net.engines.modify i (Engine.taking c (net.delayOf i c < within)) := by
  rw [send_eq, launch_eq, arrive_of_command hservice hmount hhandle]
  dsimp only
  by_cases hlt : net.delayOf i c < within
  · rw [if_pos hlt, decide_eq_true hlt]
    exact (net.deliver o).engines_finish i c
  · rw [if_neg hlt, decide_eq_false hlt]
    rfl

end Network

/-! ### The request to register a storage -/

/-- A body is read as what it spells out if it is announced as JSON. -/
theorem Http.bodyOf_spelled {α : Type} {read : Json.Decoder α} {v : Json.Value} {levels : Nat} {x : α} {r : Request}
    {type : String} (htype : r.header? "content-type" = some type) (hjson : isJsonType type.toList = true)
    (hbody : r.body = v.text) (h : Json.Spells v read levels x) (hroom : levels ≤ Json.maxDepth) :
    bodyOf read r = .ok x := by
  unfold bodyOf
  rw [htype]
  dsimp only
  rw [hjson, hbody, h.decodeFront hroom]
  rfl

/-- What is sent with a document carries it. -/
theorem Outgoing.bodyOf_request {α : Type} {read : Json.Decoder α} {v : Json.Value} {levels : Nat} {x : α} {o : Outgoing}
    (ho : o.body = some v) (h : Json.Spells v read levels x) (hroom : levels ≤ Json.maxDepth) (path : List Char) :
    bodyOf read { o.request with path := path } = .ok x := by
  have htype : { o.request with path := path }.header? "content-type" = some jsonText := by
    unfold Request.header? Outgoing.request
    rw [ho]
    rfl
  have hbody : { o.request with path := path }.body = v.text := by
    unfold Outgoing.request
    rw [ho]
  exact bodyOf_spelled htype (by decide) hbody h hroom

/-- A request with a registration that carries the secret is the command to register it. -/
theorem Worker.handle_register {secret : String} {r : Request} {d : Registration} (hcarries : carries secret r = true)
    (hmethod : r.method = "POST") (hpath : r.path = "/cluster/storages".toList)
    (hbody : bodyOf Registration.read r = .ok d) : handle secret r = .command (.registerStorage d) false := by
  have hdispatch : dispatch secret routes r = .ok ⟨.registerStorage, [], false⟩ :=
    dispatch_of_pieces hcarries hpath rfl (by rw [hmethod]; rfl)
  have hcommand : commandOf .registerStorage [] r = .ok (.registerStorage d) := by
    show (bodyOf Registration.read r).map Command.registerStorage = _
    rw [hbody]
    rfl
  simp only [handle, hdispatch, hcommand]

section
variable {client : Client} {d : Registration} {o : Outgoing} {mount secret : String} {path : List Char}

theorem Client.path_of_register (ho : client.request (WorkerCall.registerStorage d) = .ok o) :
    o.request.path = (Url.Path.segments client.base.stem).print ++ "/cluster/storages".toList := by
  have hplain : ∀ s ∈ ["cluster".toList, "storages".toList], ∀ x ∈ s, Url.isIgnored x = false :=
    List.forall_mem_cons.mpr
      ⟨Url.plain_of_all (by decide), List.forall_mem_singleton.mpr (Url.plain_of_all (by decide))⟩
  have hencoded : ∀ special, Url.encodeSegment special "cluster".toList = "cluster".toList ∧
      ["storages".toList].map (Url.encodeSegment special) = ["storages".toList] := by decide
  obtain ⟨u, hu, rfl⟩ := request_eq_ok ho
  obtain ⟨hcluster, hstorages⟩ := hencoded (Url.isSpecial client.base.scheme)
  have hu : client.base.join? ["cluster".toList, "storages".toList] = some u := hu
  have hpath := Url.join?_segments hu (by decide) (by decide) hplain
  rw [List.filter_eq_self.mpr (by decide), hcluster, hstorages] at hpath
  show u.path.print = _
  rw [hpath]
  simp [Url.Path.print]

/-- The worker with the secret of the client and its routes right below the client's address takes the registration. -/
theorem Client.register_taken (ho : client.request (WorkerCall.registerStorage d) = .ok o)
    (husable : Usable client.secret) (hfront : (Url.Path.segments client.base.stem).print = mount.toList) :
    ∃ path, belowMount mount o.request.path = some path ∧
      handle client.secret { o.request with path := path } = .command (.registerStorage d) false := by
  have hpath := path_of_register ho
  obtain ⟨u, -, rfl⟩ := request_eq_ok ho
  refine ⟨"/cluster/storages".toList, ?_, handle_register ?_ rfl rfl ?_⟩
  · rw [hpath]
    exact belowMount_front hfront "cluster/storages".toList
  · exact carries_iff.mpr ((Outgoing.presents_iff _ _).mpr husable)
  · exact Outgoing.bodyOf_request rfl d.spelled (by decide) _

/-- Only a worker with the client's secret and with its routes right below the client's address takes the request. -/
theorem Client.mount_of_register {c : Command} {headOnly : Bool}
    (ho : client.request (WorkerCall.registerStorage d) = .ok o) (husable : Usable client.secret)
    (hmount : belowMount mount o.request.path = some path)
    (hhandle : handle secret { o.request with path := path } = .command c headOnly) :
    (Url.Path.segments client.base.stem).print = mount.toList ∧ secret = client.secret := by
  have table : ∀ route ∈ routes, ∀ y ∈ route.methods, y.2 = .registerStorage →
      route.path = [.fixed "cluster", .fixed "storages"] := by decide
  have hmethod := (WorkerCall.registerStorage_commands d).becomes ho hmount hhandle
  obtain ⟨route, hroute, ⟨y, hy, hya⟩, p, found, hbelow, hpieces, -⟩ :=
    split_of_handle (a := .registerStorage) hhandle hmethod
  obtain rfl : path = '/' :: p := hbelow
  rw [table route hroute y hy hya] at hpieces
  obtain rfl : p = "cluster/storages".toList := Text.split_inj hpieces
  constructor
  · rw [path_of_register ho] at hmount
    exact front_of_belowMount (by decide) hmount
  · have hsecret : o.secret = client.secret := by
      obtain ⟨u, -, rfl⟩ := request_eq_ok ho
      rfl
    have hpresents := ((o.presents_iff ('/' :: "cluster/storages".toList)).mpr (hsecret ▸ husable)).1
    have hcarried := (carries_iff.mp (handle_eq_command hhandle).1).1
    exact hsecret ▸ Option.some.inj (hcarried.symm.trans hpresents)

end

/-- An address below which a call has a request takes requests. -/
theorem Client.takes_of_request {α : Type} {client : Client} {call : Call α} {o : Outgoing}
    (ho : client.request call = .ok o) : client.base.takesRequests = true := by
  rw [request_eq] at ho
  cases hu : client.base.join? (call.segments.map String.toList) with
  | none =>
    rw [hu] at ho
    cases ho
  | some u =>
    obtain ⟨hscheme, hauthority⟩ := Url.join?_keeps hu
    rw [hu] at ho
    dsimp only at ho
    split at ho
    · next hhost =>
      split at ho
      · cases ho
      · next hallowed =>
        split at ho
        · next hserver =>
          rw [call.server_asked hu] at hserver
          have hjoin : (client.base.join? []).isSome = true := by
            unfold Url.join? at hu ⊢
            cases hpath : client.base.path with
            | text s =>
              rw [hpath] at hu
              cases hu
            | segments l => rfl
          have hbase : client.base.hasHost = true := by
            unfold Url.hasHost at hhost ⊢
            rwa [← hauthority]
          have hhttp : client.base.scheme = "http".toList ∨ client.base.scheme = "https".toList := by
            rw [← hscheme]
            by_contra hnone
            exact hallowed (not_or.mp hnone)
          unfold Url.takesRequests
          simp only [hjoin, hbase, hserver, Bool.true_and, Bool.and_true, Bool.or_eq_true, decide_eq_true_eq]
          exact hhttp
        · cases ho
    · cases ho

/-! ### Engines -/

/-- An engine that is sent a registration by somebody who waits for some time. -/
def Worker.Engine.registering (d : Registration) (within : Nat) (e : Engine) : Engine :=
  e.taking (.registerStorage d) (e.delayOf (.registerStorage d) < within)

/-- The request to register a storage is taken by the worker that serves its routes right below the client's address, with
the client's secret. No other engine is touched. -/
theorem Network.engines_register {client : Client} {d : Registration} {o : Outgoing} {net : Network} {i : Nat} {e : Engine}
    (ho : client.request (WorkerCall.registerStorage d) = .ok o) (husable : Usable client.secret)
    (he : net.engines[i]? = some e) (within : Nat) : (net.send within o).1.engines[i]? =
      some (if net.mounts client.base client.secret i then e.registering d within else e) := by
  have hserver := Client.server_of_request ho
  by_cases hmounts : net.mounts client.base client.secret i = true
  · obtain ⟨hconnected, -, mount, hlookup, hfront⟩ := mounts_iff.mp hmounts
    obtain ⟨path, hmount, hhandle⟩ := Client.register_taken ho husable hfront
    have hservice : net.serviceOf o = some (.worker mount client.secret i) := by
      rw [serviceOf, if_pos hconnected, hserver, hlookup]
    rw [engines_send_of_command hservice hmount hhandle, List.getElem?_modify_eq, he, delayOf_eq he, if_pos hmounts]
    rfl
  · rw [if_neg hmounts]
    rcases send_cases (net.serviceOf o) within o with
      ⟨reply, hsend⟩ | ⟨mount, secret, k, path, c, headOnly, hservice, hmount, hhandle, hsend⟩
    · rw [(hsend net rfl).1, he]
    · obtain ⟨hfront, rfl⟩ := Client.mount_of_register ho husable hmount hhandle
      have hne : k ≠ i := by
        rintro rfl
        have hlookup := lookup_of_serviceOf hservice
        rw [hserver] at hlookup
        have hconnected : net.connected = true := by
          unfold serviceOf at hservice
          split at hservice
          · assumption
          · cases hservice
        exact hmounts (mounts_iff.mpr ⟨hconnected, Client.takes_of_request ho, mount, hlookup, hfront⟩)
      rw [(hsend net rfl).1, List.getElem?_modify_ne _ _ hne, he]

end Muster
