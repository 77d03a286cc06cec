import Muster.Proofs.Network.Kind

/-! # What a call does to an engine

A call to a node that a worker serves sends one request to it if the node is ready, and none otherwise. At the worker's
engine it is one command at most, which the engine has carried out if the call succeeds; no other engine is touched. A
call to a node whose host cannot be reached does nothing, and fails. -/

namespace Muster

open Worker

/-! ### Engines -/

namespace Worker.Engine

/-- Of a kind of commands at most one has reached the engine: it has begun, and may be done. -/
def AtMostOne (kind : String) (e e' : Engine) : Prop :=
  e' = e ∨ ∃ c : Command, c.method = kind ∧ (e' = e.begin c ∨ e' = ((e.begin c).finish c).1)

/-- The engine has carried out one command of a kind, and has not failed. -/
def CarriedOut (kind : String) (e e' : Engine) : Prop :=
  ∃ c : Command, c.method = kind ∧ e' = ((e.begin c).finish c).1 ∧ ∀ chain, ((e.begin c).finish c).2 ≠ .failed chain

variable {kind : String} {e e' : Engine}

theorem AtMostOne.refl (kind : String) (e : Engine) : AtMostOne kind e e := Or.inl rfl

/-- A command that has reached an engine is on its record. -/
theorem AtMostOne.calls (h : AtMostOne kind e e') :
    e'.calls = e.calls ∨ ∃ c : Command, c.method = kind ∧ e'.calls = e.calls ++ [c.record] := by
  rcases h with rfl | ⟨c, hc, rfl | rfl⟩
  · exact Or.inl rfl
  · exact Or.inr ⟨c, hc, rfl⟩
  · exact Or.inr ⟨c, hc, calls_finish (e.begin c) c⟩

end Worker.Engine

/-! ### Hosts -/

/-- Requests can be sent below an address. -/
def Url.takesRequests (u : Url) : Bool :=
  (u.join? []).isSome && u.hasHost && (u.scheme = "http".toList || u.scheme = "https".toList) &&
    Http.isServer u.server.toList

namespace Network

/-- Clients have a way to the host of an address, and somebody is there. -/
def reaches (net : Network) (base : Url) : Bool := net.connected && (net.services.lookup base.server).isSome

/-- The engine of the worker that serves an address. -/
def serving (net : Network) (base : Url) : Option Nat :=
  if net.connected && base.takesRequests then
    match net.services.lookup base.server with
    | some (.worker _ _ engine) => some engine
    | _ => none
  else none

/-- Requests were sent, and one engine may have changed. -/
structure Touched (a : Network) (i : Nat) (e' : Engine) (servers : List String) (b : Network) : Prop where
  connected : b.connected = a.connected
  services : b.services = a.services
  arrived : ∃ sent, b.arrived = a.arrived ++ sent ∧ sent.map (·.server) = servers
  changed : b.engines[i]? = some e'
  others : ∀ j, j ≠ i → b.engines[j]? = a.engines[j]?

variable {net a b : Network} {base : Url} {i j : Nat} {e e' : Engine}

theorem serving_eq_some (h : net.serving base = some i) : net.connected = true ∧ base.takesRequests = true ∧
    ∃ mount secret, net.services.lookup base.server = some (.worker mount secret i) := by
  unfold serving at h
  split at h
  · rename_i hcond
    obtain ⟨hconnected, htakes⟩ := Bool.and_eq_true_iff.mp hcond
    split at h
    · cases h
      exact ⟨hconnected, htakes, _, _, ‹_›⟩
    · cases h
  · cases h

theorem serving_congr (hc : a.connected = b.connected) (hs : a.services = b.services) (base : Url) :
    a.serving base = b.serving base := by
  rw [serving, serving, hc, hs]

theorem reaches_congr (hc : a.connected = b.connected) (hs : a.services = b.services) (base : Url) :
    a.reaches base = b.reaches base := by
  rw [reaches, reaches, hc, hs]

theorem reaches_of_serving (h : net.serving base = some i) : net.reaches base = true := by
  obtain ⟨hconnected, -, mount, secret, hlookup⟩ := serving_eq_some h
  rw [reaches, hconnected, hlookup]
  rfl

/-- Two addresses of one server are served by one worker. -/
theorem serving_of_server {base' : Url} (h : net.serving base = some i) (h' : net.serving base' = some j)
    (hserver : base.server = base'.server) : i = j := by
  obtain ⟨-, -, mount, secret, hlookup⟩ := serving_eq_some h
  obtain ⟨-, -, mount', secret', hlookup'⟩ := serving_eq_some h'
  rw [hserver, hlookup'] at hlookup
  cases hlookup
  rfl

theorem serving_of_not_reaches (h : net.reaches base = false) : net.serving base = none := by
  by_contra hne
  obtain ⟨i, hi⟩ := Option.ne_none_iff_exists'.mp hne
  rw [reaches_of_serving hi] at h
  cases h

/-- A request to a host that cannot be reached does nothing, and gets no answer. -/
theorem send_of_not_reaches {o : Outgoing} (h : net.reaches base = false) (hserver : o.url.server = base.server)
    (within : Nat) : (net.send within o).1 = net ∧ ∀ answer, (net.send within o).2.2 ≠ .answered answer := by
  have hservice : net.serviceOf o = none := by
    unfold reaches at h
    rw [serviceOf, hserver]
    cases hconnected : net.connected with
    | false => rfl
    | true =>
      rw [hconnected, Bool.true_and] at h
      rw [if_pos rfl]
      exact Option.not_isSome_iff_eq_none.mp (by rw [h]; exact Bool.false_ne_true)
  have harrive : net.arrive o = (net, 0, .settled .unreachable) := by rw [arrive_eq, hservice]
  rw [send_eq, launch_eq, harrive]
  dsimp only
  split
  · exact ⟨rfl, fun _ h => by cases h⟩
  · exact ⟨rfl, fun _ h => by cases h⟩

theorem Touched.refl (he : net.engines[i]? = some e) : net.Touched i e [] net where
  connected := rfl
  services := rfl
  arrived := ⟨[], (List.append_nil _).symm, rfl⟩
  changed := he
  others := fun _ _ => rfl

theorem Touched.deliver (he : net.engines[i]? = some e) (o : Outgoing) :
    net.Touched i e [o.url.server] (net.deliver o) where
  connected := rfl
  services := rfl
  arrived := ⟨_, rfl, rfl⟩
  changed := he
  others := fun _ _ => rfl

theorem Touched.modify {servers : List String} (h : a.Touched i e servers b) (f : Engine → Engine) :
    a.Touched i (f e) servers { b with engines := b.engines.modify i f } where
  connected := h.connected
  services := h.services
  arrived := h.arrived
  changed := by
    show (b.engines.modify i f)[i]? = _
    rw [List.getElem?_modify_eq, h.changed]
    rfl
  others := fun j hj => by
    show (b.engines.modify i f)[j]? = _
    rw [List.getElem?_modify_ne f b.engines (Ne.symm hj), h.others j hj]

theorem Touched.begin {servers : List String} (h : a.Touched i e servers b) (c : Command) :
    a.Touched i (e.begin c) servers (b.begin i c) := h.modify (·.begin c)

theorem Touched.finish {servers : List String} (h : a.Touched i e servers b) (c : Command) :
    a.Touched i (e.finish c).1 servers (b.finish i c).1 := by
  rw [finish_eq]
  exact h.modify fun e => (e.finish c).1

end Network

/-! ### Calls -/

variable {α : Type} {call : Call α} {kind : String} {n : Node} {a : Network} {i : Nat} {e : Engine}

/-- Appending segments to the path of an address keeps its scheme and its host. -/
theorem Url.join?_keeps {base u : Url} {segments : List (List Char)} (h : base.join? segments = some u) :
    u.scheme = base.scheme ∧ u.authority = base.authority := by
  unfold join? at h
  split at h
  · cases h
  · obtain rfl := Option.some.inj h
    exact ⟨rfl, rfl⟩

theorem Call.server_asked (call : Call α) {base u : Url} {segments : List (List Char)}
    (h : base.join? segments = some u) : (call.asked u).server = base.server := by
  obtain ⟨-, hauthority⟩ := Url.join?_keeps h
  unfold asked Url.withoutUser Url.server
  rw [hauthority]
  cases base.authority <;> rfl

theorem Client.server_of_request {c : Client} {o : Outgoing} (h : c.request call = .ok o) :
    o.url.server = c.base.server := by
  obtain ⟨u, hu, rfl⟩ := request_eq_ok h
  exact call.server_asked hu

/-- Below an address that takes requests each call has a request. -/
theorem Client.request_of_takes (c : Client) (call : Call α) (h : c.base.takesRequests = true) :
    ∃ o, c.request call = .ok o := by
  unfold Url.takesRequests at h
  simp only [Bool.and_eq_true, Bool.or_eq_true, decide_eq_true_eq] at h
  obtain ⟨⟨⟨hjoin, hhost⟩, hscheme⟩, hserver⟩ := h
  have hjoined : ∃ u, c.base.join? (call.segments.map String.toList) = some u := by
    unfold Url.join? at hjoin ⊢
    cases hpath : c.base.path with
    | text s => rw [hpath] at hjoin; cases hjoin
    | segments l => exact ⟨_, rfl⟩
  obtain ⟨u, hu⟩ := hjoined
  obtain ⟨huscheme, huauthority⟩ := Url.join?_keeps hu
  have hhost : u.hasHost = true := by
    unfold Url.hasHost at hhost ⊢
    rwa [huauthority]
  have hallowed : ¬ ((call.asked u).scheme ≠ "http".toList ∧ (call.asked u).scheme ≠ "https".toList) := by
    rintro ⟨hhttp, hhttps⟩
    rw [← huscheme] at hscheme
    rcases hscheme with h | h
    · exact hhttp h
    · exact hhttps h
  refine ⟨⟨call.method, call.asked u, c.secret, call.body⟩, ?_⟩
  rw [request_eq, hu]
  show (if u.hasHost = true then _ else _) = _
  rw [if_pos hhost, if_neg hallowed, if_pos (by rw [call.server_asked hu]; exact hserver)]

theorem Http.Response.isSuccess_onWire (r : Http.Response) : r.onWire.isSuccess = r.isSuccess := by
  unfold onWire
  split <;> rfl

/-- What a request of a call does at the worker that serves its node. -/
theorem Network.send_effect {client : Client} {o : Outgoing} (hcall : call.Commands kind)
    (hserving : a.serving client.base = some i) (he : a.engines[i]? = some e) (ho : client.request call = .ok o)
    (within : Nat) :
    ∃ e', a.Touched i e' [client.base.server] (a.send within o).1 ∧ e.AtMostOne kind e' ∧
      ∀ x, call.outcome o.url (a.send within o).2.2 = .ok x → e.CarriedOut kind e' := by
  obtain ⟨hconnected, -, mount, secret, hlookup⟩ := serving_eq_some hserving
  have hserver : o.url.server = client.base.server := Client.server_of_request ho
  have hservice : a.serviceOf o = some (.worker mount secret i) := by
    rw [serviceOf, if_pos hconnected, hserver, hlookup]
  have delivered : a.Touched i e [client.base.server] (a.deliver o) := hserver ▸ Touched.deliver he o
  have harrive : a.arrive o = (a.deliver o).receive o.request (.worker mount secret i) := by
    rw [arrive_eq, hservice]
  rcases receive_cases (.worker mount secret i) o.request with
    ⟨delay, response, hreceive, hrefused⟩ | ⟨mount', secret', i', path, c, headOnly, heq, hmount, hhandle, hreceive⟩
  · -- The worker refuses the request, and does so whether or not its sender waits for that.
    have hrefused : response.onWire.isSuccess = false :=
      (Http.Response.isSuccess_onWire response).trans (hrefused mount secret i rfl)
    rw [hreceive] at harrive
    rw [send_eq, launch_eq, harrive]
    refine ⟨e, ?_, .refl kind e, fun x hx => ?_⟩
    · dsimp only
      split <;> exact delivered
    · dsimp only at hx
      split at hx
      · cases hx.symm.trans (call.outcome_of_refusal o.url hrefused)
      · cases hx
  · cases heq
    have hkind : c.method = kind := hcall.becomes ho hmount hhandle
    rw [hreceive] at harrive
    rw [send_eq, launch_eq, harrive]
    dsimp only
    split
    · -- The engine is done before the sender gives up.
      refine ⟨((e.begin c).finish c).1, (delivered.begin c).finish c, Or.inr ⟨c, hkind, Or.inr rfl⟩, fun x hx => ?_⟩
      refine ⟨c, hkind, rfl, fun chain hfailed => ?_⟩
      have hanswer : (((a.deliver o).begin i c).finish i c).2 = .failed chain := by
        rw [answer_finish, (delivered.begin c).changed]
        exact hfailed
      obtain ⟨e', he'⟩ := hcall.fails hkind headOnly chain o.url
      rw [← hanswer] at he'
      cases hx.symm.trans he'
    · exact ⟨e.begin c, delivered.begin c, Or.inr ⟨c, hkind, Or.inl rfl⟩, fun x hx => by cases hx⟩

/-- Only a call that succeeded is told as one that did. -/
theorem Node.outcome_eq_ok (n : Node) {x : Except CallError α} {y : α} (h : n.outcome x = .ok y) : x = .ok y := by
  cases x with
  | ok z =>
    obtain rfl : z = y := Except.ok.inj h
    rfl
  | error e => cases e <;> cases h

/-- What a call does to a node that a worker serves: nothing if the node is not ready, and otherwise it sends a
request. -/
theorem Node.relay_effect (hcall : call.Commands kind) (hserving : a.serving n.client.base = some i)
    (he : a.engines[i]? = some e) (limit : Nat) :
    ∃ e', a.Touched i e' (if n.isReady then [n.client.base.server] else []) (n.relay a limit call).1 ∧
      (n.isReady = false → e' = e) ∧ e.AtMostOne kind e' ∧
      ∀ x, (n.relay a limit call).2.outcome = .ok x → e.CarriedOut kind e' := by
  cases hready : n.isReady with
  | false =>
    rw [relay_not_ready hready]
    exact ⟨e, .refl he, fun _ => rfl, .refl kind e, fun x hx => by cases hx⟩
  | true =>
    obtain ⟨-, htakes, -⟩ := Network.serving_eq_some hserving
    obtain ⟨o, ho⟩ := n.client.request_of_takes call htakes
    obtain ⟨e', htouched, hone, hdone⟩ :=
      Network.send_effect hcall hserving he ho (min limit n.policy.timeout.nanos)
    rw [relay_sent hready ho]
    refine ⟨e', htouched, fun h => absurd h.symm Bool.false_ne_true, hone, fun x hx => ?_⟩
    exact hdone x (n.outcome_eq_ok hx)

theorem Node.relay_unreached (h : a.reaches n.client.base = false) (limit : Nat) (call : Call α) :
    (n.relay a limit call).1 = a ∧ ∀ x, (n.relay a limit call).2.outcome ≠ .ok x := by
  cases hready : n.isReady with
  | false =>
    rw [relay_not_ready hready]
    exact ⟨rfl, fun x hx => by cases hx⟩
  | true =>
    cases hrequest : n.client.request call with
    | error err =>
      rw [relay_unsent hready hrequest]
      exact ⟨rfl, fun x hx => by cases hx⟩
    | ok o =>
      obtain ⟨hsame, hnone⟩ := Network.send_of_not_reaches h (Client.server_of_request hrequest)
        (min limit n.policy.timeout.nanos)
      rw [relay_sent hready hrequest]
      refine ⟨hsame, fun x hx => ?_⟩
      have hy := n.outcome_eq_ok hx
      cases hexchange : (a.send (min limit n.policy.timeout.nanos) o).2.2 with
      | answered answer => exact hnone answer hexchange
      | _ => rw [hexchange] at hy; cases hy

end Muster
