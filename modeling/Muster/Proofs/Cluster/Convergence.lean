import Muster.Proofs.Cluster.Joining

/-! # Workers converge

Whoever joins takes over the settings that the management node pushes, whatever the address, the name and the version
that it joins with: workers of one management node share what that node's own settings and its auth file say. A worker
that does not join keeps what it has. -/

namespace Muster

open Http

/-! ### The settings of the management node -/

/-- What an auth file says is what its octets are read as. -/
theorem Settings.loadAuthSummary_eq_ok {files : Files} {path : String} {content : List Nat} {auth : AuthSummary}
    (hopen : files.open_ path = .file content) (hread : Json.decodeOctets AuthSummary.read content = .ok auth) :
    loadAuthSummary files path = .ok auth := by
  rw [loadAuthSummary, hopen]
  dsimp only
  rw [hread]

namespace Settings.Management

/-- What the auth file says; nothing if there is none. -/
def authOfFile (m : Management) (files : Files) : Except SettingsError AuthSummary :=
  match m.authFile with
  | some path => if path = "" then .ok .none else loadAuthSummary files path
  | none => .ok .none

/-- What the workers of a management node come to share, where the auth file says `auth`. -/
def shared (m : Management) (auth : AuthSummary) : CommonSettings where
  enableAdminUi := m.adminUi
  adminUiFetchPath := m.adminUiFetchPath
  debugMode := m.debug
  cors := m.cors
  coreDb := m.coreDb
  auth :=
    { providers := Worker.secretProvider :: auth.providers.filter (·.name ≠ secretHeader)
      managedApiKeys := m.allowManagedApiKeys || auth.managedApiKeys
      anonymous := m.anonymous
      loginUrl := auth.loginUrl
      redirectUrl := auth.redirectUrl }

variable {m : Management} {files : Files} {common : CommonSettings}

/-- What is pushed makes a worker share what the management node's settings and the auth file say. -/
theorem apply_common (h : m.common files = .ok common) : ∃ auth, m.authOfFile files = .ok auth ∧
    ∀ w : Worker, w.apply common = { w with common := m.shared auth } := by
  have hbind : m.common files = (m.authOfFile files).map fun auth => ⟨m.adminUi, m.adminUiFetchPath, m.debug, m.cors,
      m.coreDb, { auth with
        anonymous := m.anonymous
        managedApiKeys := m.allowManagedApiKeys || auth.managedApiKeys }⟩ := by
    unfold Management.common authOfFile
    cases m.authFile with
    | none => rfl
    | some path =>
      dsimp only
      split
      · rfl
      · cases loadAuthSummary files path with
        | error e => rfl
        | ok auth => rfl
  rw [hbind] at h
  obtain ⟨auth, hauth, rfl⟩ := map_eq_ok h
  exact ⟨auth, hauth, fun w => rfl⟩

end Settings.Management

/-! ### The answer to a worker that joins -/

theorem Call.outcome_eq_ok {α : Type} {call : Call α} {url : Url} {x : Exchange} {a : α}
    (h : call.outcome url x = .ok a) : ∃ r, x = .answered r ∧ r.isSuccess = true ∧ call.read r = .ok a := by
  cases x with
  | unreachable => cases h
  | timedOut => cases h
  | answered r =>
    cases hsuccess : r.isSuccess with
    | false => cases (call.outcome_of_refusal url hsuccess).symm.trans h
    | true =>
      rw [call.outcome_of_success url hsuccess] at h
      cases hread : call.read r with
      | error e =>
        rw [hread] at h
        cases h
      | ok b =>
        rw [hread] at h
        obtain rfl := Except.ok.inj h
        exact ⟨r, rfl, hsuccess, hread⟩

namespace Cluster

variable {c : Cluster} {u : Uplink} {w : Settings.Worker} {pushed : CommonSettings}

theorem fieldsOf_refused {known : List String} {r : Request} {response : Response}
    (h : fieldsOf known r = .error response) : response.isSuccess = false := by
  unfold fieldsOf at h
  dsimp only at h
  split at h
  · cases h
    rfl
  · cases h

/-- A request to enroll that is answered with success is answered with the common settings. -/
theorem enrollAnswer_cases (c : Cluster) (r : Request) :
    (c.enrollAnswer r).2.isSuccess = false ∨ (c.enrollAnswer r).2 = .json c.roster.common.encode := by
  unfold enrollAnswer
  cases hfields : fieldsOf ["name", "url", "version"] r with
  | error response => exact Or.inl (fieldsOf_refused hfields)
  | ok field =>
    dsimp only
    rcases c.enroll_cases (field "name") (field "url") (field "version") with ⟨-, e, he⟩ | ⟨-, n, -, he⟩
    · rw [he]
      exact Or.inl e.not_success
    · rw [he]
      exact Or.inr rfl

/-- Wherever its path leads, a request that asks to be posted at a last piece `node` enrolls, or is refused. -/
theorem serve_node (c : Cluster) (limit : Nat) (r : Request) (hmethod : r.method = "POST")
    (hlast : lastPiece r.path = "node".toList) :
    (c.serve limit r).2.2.isSuccess = false ∨ (c.serve limit r).2.2 = .json c.roster.common.encode := by
  have table : ∀ route ∈ routes, ∀ y ∈ route.methods, y.1 = "POST" →
      ∃ s ∈ ["node", "load", "unload", "storages"], route.path.getLast? = some (.fixed s) ∧
        (s = "node" → y.2 = .enroll) := by decide
  unfold serve
  cases hdispatch : dispatch c.roster.policy.secret routes r with
  | error response => exact Or.inl (dispatch_refused hdispatch)
  | ok a =>
    obtain ⟨-, route, hroute, hmatch, haction⟩ := dispatch_eq_ok hdispatch
    rcases Route.action?_eq_some haction with ⟨hmem, hbody⟩ | ⟨hhead, -⟩
    · obtain ⟨s, -, hend, henroll⟩ := table route hroute _ hmem hmethod
      have hs : s = "node" := String.toList_inj.mp ((lastPiece_of_match hmatch hend).symm.trans hlast)
      have ha : a.action = .enroll := henroll hs
      dsimp only
      rw [ha]
      show (a.deliver (c.enrollAnswer r).2).isSuccess = false ∨ a.deliver (c.enrollAnswer r).2 = _
      unfold Admitted.deliver
      rw [hbody]
      exact c.enrollAnswer_cases r
    · rw [hmethod] at hhead
      exact absurd hhead (by decide)

theorem lastPiece_joining {o : Outgoing} (ho : u.client.request u.joining = .ok o) :
    lastPiece o.request.path = "node".toList := by
  obtain ⟨v, hv, rfl⟩ := Client.request_eq_ok ho
  have hencoded : ∀ special, Url.encodeSegment special "node".toList = "node".toList := by decide
  have hsegments : u.client.base.join? ([] ++ ["node".toList]) = some v := hv
  show lastPiece v.path.print = _
  exact Url.lastPiece_join? hsegments (hencoded _) (by decide)

/-- The address at which a worker looks for its management node is that of a cluster. -/
def Manages (c : Cluster) (w : Settings.Worker) : Prop :=
  ∃ base secret, Url.parse w.managementUrl = .ok base ∧ c.net.services.lookup base.server = some (.management secret)

/-- An answer from the host of the management node is one that its interface gave. -/
theorem answer_of_send {o : Outgoing} {within : Nat} {r : Response} {secret : String}
    (hlookup : c.net.services.lookup o.url.server = some (.management secret))
    (h : (c.send within o).result = .answered r) : r = ((c.reached o).serve within o.request).2.2.onWire := by
  cases hconnected : c.net.connected with
  | false =>
    have hreaches : c.net.reaches o.url = false := by
      rw [Network.reaches, hconnected]
      rfl
    have hsend : (c.send within o).result = (c.net.send within o).2.2 := by
      unfold send
      rw [hconnected]
      rfl
    rw [hsend] at h
    exact absurd h ((Network.send_of_not_reaches hreaches rfl within).2 r)
  | true =>
    have hservice : c.net.serviceOf o = some (.management secret) := by
      rw [Network.serviceOf, if_pos hconnected, hlookup]
    rw [send_of_management hservice] at h
    dsimp only at h
    split at h
    · exact (Exchange.answered.inj h).symm
    · cases h

theorem call_eq_ok {α : Type} {call : Call α} {x : α} (h : (c.call u call).result = .ok x) :
    ∃ o r, u.client.request call = .ok o ∧ (c.send u.timeout.nanos o).result = .answered r ∧ r.isSuccess = true ∧
      call.read r = .ok x := by
  unfold Cluster.call at h
  cases ho : u.client.request call with
  | error e =>
    rw [ho] at h
    cases h
  | ok o =>
    rw [ho] at h
    obtain ⟨r, hanswered, hrest⟩ := Call.outcome_eq_ok h
    exact ⟨o, r, rfl, hanswered, hrest⟩

theorem Admits.manages (h : c.Admits w) : c.Manages w := by
  obtain ⟨base, secret, hparse, -, -, -, hserved⟩ := h.address
  exact ⟨base, secret, hparse, hserved⟩

/-- What a worker is pushed by the management node are the common settings, wherever at the node's host it asks. -/
theorem join_eq_ok (hserved : ∃ secret, c.net.services.lookup u.client.base.server = some (.management secret))
    (h : (c.join u).result = .ok pushed) : pushed = c.roster.common := by
  obtain ⟨secret, hlookup⟩ := hserved
  have hmap : (c.call u u.joining).result.mapError Uplink.joinFailure = .ok pushed := h
  have hcall : (c.call u u.joining).result = .ok pushed := by
    cases hresult : (c.call u u.joining).result with
    | error e =>
      rw [hresult] at hmap
      cases hmap
    | ok x =>
      rw [hresult] at hmap
      exact congrArg Except.ok (Except.ok.inj hmap)
  obtain ⟨o, r, ho, hanswered, hsuccess, hread⟩ := call_eq_ok hcall
  have hserver : c.net.services.lookup o.url.server = some (.management secret) := by
    rw [Client.server_of_request ho, hlookup]
  obtain rfl := answer_of_send hserver hanswered
  rw [Response.isSuccess_onWire] at hsuccess
  have hmethod : o.method = u.joining.method := Client.method_of_request ho
  rcases (c.reached o).serve_node u.timeout.nanos o.request hmethod (lastPiece_joining ho) with hrefused | hjson
  · rw [hrefused] at hsuccess
    cases hsuccess
  · have hpushed : u.joining.read = Uplink.readPushed := rfl
    rw [hjson, hpushed, readPushed_json] at hread
    exact (Except.ok.inj hread).symm

/-! ### Connecting -/

/-- A worker is connected to its management node by joining; else it keeps its settings. -/
theorem connect_cases (c : Cluster) (w : Settings.Worker) :
    (∃ u pushed, Uplink.make w = .ok u ∧ (c.join u).result = .ok pushed ∧
        (c.connect w).result = (w.apply pushed, .ok (.joined u))) ∨
      (c.connect w).result.1 = w ∧ ∀ u, (c.connect w).result.2 ≠ .ok (.joined u) := by
  unfold connect
  by_cases hcluster : w.isClusterMode = true
  · rw [if_pos hcluster]
    cases hmake : Uplink.make w with
    | error e => exact Or.inr ⟨rfl, fun u h => by cases h⟩
    | ok u =>
      cases hjoin : (c.join u).result with
      | error e =>
        right
        dsimp only
        rw [hjoin]
        exact ⟨rfl, fun u h => by cases h⟩
      | ok pushed =>
        left
        dsimp only
        rw [hjoin]
        exact ⟨u, pushed, rfl, hjoin, rfl⟩
  · rw [if_neg hcluster]
    exact Or.inr ⟨rfl, fun u h => by cases h⟩

theorem base_of_make (h : Uplink.make w = .ok u) : Url.parse w.managementUrl = .ok u.client.base := by
  unfold Uplink.make at h
  split at h
  · cases h
  · split at h
    · cases h
    · split at h
      · cases h
      · rename_i client hclient
        obtain rfl := Except.ok.inj h
        unfold Client.make at hclient
        split at hclient
        · cases hclient
        · split at hclient
          · obtain rfl := Except.ok.inj hclient
            assumption
          · cases hclient

/-- A worker that joins takes over the common settings. -/
theorem connect_eq_ok (hmanages : c.Manages w) (h : (c.connect w).result.2 = .ok (.joined u)) :
    (c.connect w).result.1 = w.apply c.roster.common := by
  rcases c.connect_cases w with ⟨u', pushed, hmake, hjoin, hresult⟩ | ⟨-, hnot⟩
  · obtain ⟨base, secret, hparse, hlookup⟩ := hmanages
    obtain rfl : u'.client.base = base := Except.ok.inj ((base_of_make hmake).symm.trans hparse)
    rw [hresult, join_eq_ok ⟨secret, hlookup⟩ hjoin]
  · exact absurd h (hnot u)

/-- Workers that have joined one management node, at whatever times and with whatever settings of their own, share the
same settings: those of the management node, with the providers of its auth file behind that of the secret. All else of
a worker's settings stays as it was, and all of them if the worker is not connected, whatever the answer was. -/
theorem connect_converges (m : Settings.Management) (files : Settings.Files) (common : CommonSettings)
    (hcommon : m.common files = .ok common) (net₀ : Network) (es es' : List Event) (w w' : Settings.Worker)
    (u u' : Uplink)
    (hmanages : ((start (.ofSettings m) common net₀).run es).Manages w)
    (hmanages' : ((start (.ofSettings m) common net₀).run es').Manages w')
    (hjoined : (((start (.ofSettings m) common net₀).run es).connect w).result.2 = .ok (.joined u))
    (hjoined' : (((start (.ofSettings m) common net₀).run es').connect w').result.2 = .ok (.joined u')) :
    let v := (((start (.ofSettings m) common net₀).run es).connect w).result.1
    let v' := (((start (.ofSettings m) common net₀).run es').connect w').result.1
    (∃ auth, m.authOfFile files = .ok auth ∧ v = { w with common := m.shared auth } ∧
      v' = { w' with common := m.shared auth }) ∧
    v.common = v'.common ∧
    ∀ (d : Cluster) (x : Settings.Worker) (e : String), (d.connect x).result.2 = .error e →
      (d.connect x).result.1 = x := by
  intro v v'
  obtain ⟨auth, hauth, happly⟩ := Settings.Management.apply_common hcommon
  have hv : v = { w with common := m.shared auth } := by
    rw [← happly w, ← common_run (.ofSettings m) common net₀ es]
    exact connect_eq_ok hmanages hjoined
  have hv' : v' = { w' with common := m.shared auth } := by
    rw [← happly w', ← common_run (.ofSettings m) common net₀ es']
    exact connect_eq_ok hmanages' hjoined'
  refine ⟨⟨auth, hauth, hv, hv'⟩, by rw [hv, hv'], fun d x e he => ?_⟩
  rcases d.connect_cases x with ⟨y, pushed, -, -, hresult⟩ | ⟨hkept, -⟩
  · rw [hresult] at he
    cases he
  · exact hkept

/-- A management node that lets guests in and has an auth file. -/
def guestManagement : Settings.Management where
  bind := "0.0.0.0:14000"
  secret := "secret"
  clusterVersion := "v1"
  timeoutSecs := 0
  checkSecs := 0
  adminUi := true
  adminUiFetchPath := "/ui"
  debug := false
  cors := ⟨["*"], [], ["GET"]⟩
  coreDb := .none
  authFile := some "auth.json"
  anonymous := ⟨true, "guest"⟩
  allowManagedApiKeys := true

/-- An auth file with two providers, of which the second is named as the cluster's own. -/
def twoProviders : AuthSummary :=
  ⟨[⟨"oidc", "corp"⟩, ⟨"basic", Settings.secretHeader⟩], false, .none, "/login", "/"⟩

/-- What is pushed by a management node with guests and two providers. -/
def guestSettings : CommonSettings where
  enableAdminUi := true
  adminUiFetchPath := "/ui"
  debugMode := false
  cors := ⟨["*"], [], ["GET"]⟩
  coreDb := .none
  auth := ⟨twoProviders.providers, true, ⟨true, "guest"⟩, "/login", "/"⟩

/-- The machine of a management node whose working directory holds that auth file. -/
def guestFiles : Settings.Files :=
  .ofList ["srv"] [("auth.json", Text.utf8 twoProviders.encode.text.toList)]

theorem common_guestManagement : guestManagement.common guestFiles = .ok guestSettings := by
  have hopen (content : List Nat) :
      Settings.Files.open_ (.ofList ["srv"] [("auth.json", content)]) "auth.json" = .file content := rfl
  have hload : Settings.loadAuthSummary guestFiles "auth.json" = .ok twoProviders := by
    refine Settings.loadAuthSummary_eq_ok (hopen _) ?_
    rw [Json.decodeOctets_utf8, String.ofList_toList, twoProviders.spelled.decode (by decide)]
  unfold Settings.Management.common
  show (if "auth.json" = "" then _ else _) = _
  rw [if_neg (by decide), hload]
  rfl

/-- The cluster of a management node with guests, after some events. -/
def guestCluster (es : List Event) : Cluster := (start (.ofSettings guestManagement) guestSettings oneHost).run es

theorem admits_newcomer {url : String} {base : Url} (hconnected : c.net.connected = true)
    (hservices : c.net.services = oneHost.services) (hsecret : c.roster.policy.secret = "secret") (hurl : url ≠ "")
    (hparse : Url.parse url = .ok base) (name : String) : c.Admits (newcomer name url) where
  connected := hconnected
  address := by
    have hmanagement : Url.parse "http://[::1]:90/" =
        .ok ⟨"http".toList, some ⟨[], "[::1]".toList, some 90⟩, .segments [[]], none, none⟩ := by decide +kernel
    exact ⟨_, "secret", hmanagement, by decide, by decide, rfl, by rw [hservices]; rfl⟩
  secret := hsecret.symm
  given := show "secret" ≠ "" by decide
  usable := show Usable "secret" by decide
  located := ⟨hurl, base, hparse⟩

/-- Two workers join one management node at different times, and share its settings. -/
theorem connect_converges_two :
    guestManagement.common guestFiles = .ok guestSettings ∧
    ∃ u u',
      ((guestCluster []).connect (newcomer "one" "http://[::1]:81/")).result.2 = .ok (.joined u) ∧
      ((guestCluster threeWorkers).connect (newcomer "two" "http://[::1]:82/")).result.2 = .ok (.joined u') ∧
      ((guestCluster []).connect (newcomer "one" "http://[::1]:81/")).result.1.common =
        ((guestCluster threeWorkers).connect (newcomer "two" "http://[::1]:82/")).result.1.common := by
  have hparse : Url.parse "http://[::1]:81/" =
      .ok ⟨"http".toList, some ⟨[], "[::1]".toList, some 81⟩, .segments [[]], none, none⟩ := by decide +kernel
  have hparse' : Url.parse "http://[::1]:82/" =
      .ok ⟨"http".toList, some ⟨[], "[::1]".toList, some 82⟩, .segments [[]], none, none⟩ := by decide +kernel
  have hadmits : (guestCluster []).Admits (newcomer "one" "http://[::1]:81/") :=
    admits_newcomer rfl rfl rfl (by decide) hparse "one"
  have hadmits' : (guestCluster threeWorkers).Admits (newcomer "two" "http://[::1]:82/") :=
    admits_newcomer rfl rfl rfl (by decide) hparse' "two"
  obtain ⟨u, o, -, -, -, -, hjoined⟩ := hadmits.connect_eq
  obtain ⟨u', o', -, -, -, -, hjoined'⟩ := hadmits'.connect_eq
  have hresult : ((guestCluster []).connect (newcomer "one" "http://[::1]:81/")).result.2 = .ok (.joined u) := by
    rw [hjoined]
  have hresult' : ((guestCluster threeWorkers).connect (newcomer "two" "http://[::1]:82/")).result.2 =
      .ok (.joined u') := by rw [hjoined']
  refine ⟨common_guestManagement, u, u', hresult, hresult', ?_⟩
  unfold guestCluster at hadmits hadmits' hresult hresult' ⊢
  obtain ⟨-, hagree, -⟩ := connect_converges guestManagement _ guestSettings common_guestManagement oneHost []
    threeWorkers (newcomer "one" "http://[::1]:81/") (newcomer "two" "http://[::1]:82/") u u' hadmits.manages
    hadmits'.manages hresult hresult'
  exact hagree

end Cluster

end Muster
