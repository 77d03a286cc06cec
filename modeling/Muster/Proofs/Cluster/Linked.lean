import Muster.Cluster.Link
import Muster.Proofs.Cluster.Run
import Muster.Proofs.Network.Secret
import Muster.Proofs.Network.Subject
import Muster.Proofs.Node.Effect

/-! # Workers that reach the interface

An uplink that reaches the interface of the management node with the right secret (`Cluster.Linked`): its calls come to
the actions that they ask for, and an action is told to it as to anybody else, if it ends before the worker gives up. -/

namespace Muster

open Http

/-! ### Addresses -/

namespace Url

variable {u : Url}

/-- Nothing stands in the path of an address but its slash. -/
def isRoot (u : Url) : Bool :=
  match u.path with
  | .segments l => popEmpty l = [[]]
  | .text _ => false

theorem isSpecial_of_takes (h : u.takesRequests = true) : isSpecial u.scheme = true := by
  unfold takesRequests at h
  simp only [Bool.and_eq_true, Bool.or_eq_true, decide_eq_true_eq] at h
  rcases h.1.2 with hscheme | hscheme
  · rw [hscheme]
    decide
  · rw [hscheme]
    decide

/-- Behind a root stand the segments that are appended to it. -/
theorem join?_root (s : List Char) (rest : List (List Char)) (hroot : u.isRoot = true) (hne : s ≠ [])
    (hplain : ∀ t ∈ s :: rest, ∀ c ∈ t, isIgnored c = false) (hstays : ∀ t ∈ s :: rest, isPoints t = false) :
    ∃ v p, u.join? (s :: rest) = some v ∧ v.query = u.query ∧ v.path.print = '/' :: p ∧
      Text.split '/' p = (s :: rest).map (encodeSegment (isSpecial u.scheme)) := by
  unfold isRoot at hroot
  split at hroot
  · rename_i l hpath
    have hpop : popEmpty l = [[]] := of_decide_eq_true hroot
    have hencoded := encodeSegment_ne_nil (isSpecial u.scheme) (hplain s List.mem_cons_self) hne
    have hpushed : (s :: rest).foldl (pushSegment (isSpecial u.scheme)) (popEmpty l) =
        (s :: rest).map (encodeSegment (isSpecial u.scheme)) := by
      rw [hpop, List.foldl_cons, pushSegment_eq (hplain s List.mem_cons_self), hstays s List.mem_cons_self]
      show rest.foldl (pushSegment (isSpecial u.scheme)) [encodeSegment (isSpecial u.scheme) s] = _
      rw [foldl_pushSegment (fun t ht => hplain t (List.mem_cons_of_mem s ht)) (List.cons_ne_nil _ _)
        (fun heq => hencoded (List.cons.inj heq).1), List.filter_eq_self.mpr fun t ht => by
          rw [hstays t (List.mem_cons_of_mem s ht)]
          rfl]
      rfl
    have hjoin : u.join? (s :: rest) =
        some { u with path := .segments ((s :: rest).map (encodeSegment (isSpecial u.scheme))) } := by
      rw [← hpushed]
      unfold join?
      rw [hpath]
    refine ⟨_, _, hjoin, rfl, rfl, ?_⟩
    -- The path begins with a slash, before which there is nothing.
    have hsplit := split_print ((s :: rest).map (encodeSegment (isSpecial u.scheme)))
    rw [flatMap_split] at hsplit
    · exact (List.cons.inj hsplit).2
    · intro t ht
      obtain ⟨t', -, rfl⟩ := List.mem_map.mp ht
      exact slash_not_mem_encodeSegment _ t'
  · cases hroot

end Url

/-! ### Admission -/

/-- A call asks for an action of the interface, with what is found in the place of a name. -/
structure Call.AsksFor {α : Type} (call : Call α) (a : Cluster.Action) (found : List Char) : Prop where
  first : ∃ s rest, call.segments = s :: rest ∧ s ≠ ""
  plain : ∀ s ∈ call.segments, ∀ c ∈ s.toList, Url.isIgnored c = false
  stays : ∀ s ∈ call.segments, Url.isPoints s.toList = false
  route : ∃ route, Cluster.routes.findSome? (fun route =>
      (matchPieces route.path ((call.segments.map String.toList).map (Url.encodeSegment true))).map (route, ·)) =
        some (route, found) ∧ route.methods.lookup call.method = some a

section
variable {α : Type} {call : Call α} {a : Cluster.Action} {found : List Char}

theorem Call.AsksFor.of_segments (hne : call.segments ≠ []) (h : ∀ s ∈ call.segments, Url.IsSegment s)
    (hroute : ∃ route, Cluster.routes.findSome? (fun route =>
      (matchPieces route.path ((call.segments.map String.toList).map (Url.encodeSegment true))).map (route, ·)) =
        some (route, found) ∧ route.methods.lookup call.method = some a) : call.AsksFor a found where
  first := by
    obtain ⟨s, rest, hsegments⟩ := List.exists_cons_of_ne_nil hne
    exact ⟨s, rest, hsegments, (h s (hsegments ▸ List.mem_cons_self)).1⟩
  plain := fun s hs => (h s hs).plain
  stays := fun s hs => (h s hs).stays
  route := hroute

end

namespace Cluster

/-- An uplink reaches the interface of a cluster's management node at its root, with the right secret. -/
structure Linked (c : Cluster) (u : Uplink) : Prop where
  connected : c.net.connected = true
  served : ∃ secret, c.net.services.lookup u.client.base.server = some (.management secret)
  takes : u.client.base.takesRequests = true
  root : u.client.base.isRoot = true
  secret : u.client.secret = c.roster.policy.secret
  usable : Usable c.roster.policy.secret

/-- The cluster whose interface a request has reached. -/
def reached (c : Cluster) (o : Outgoing) : Cluster := { c with net := c.net.deliver o }

variable {α : Type} {c : Cluster} {u : Uplink} {call : Call α} {a : Action} {found : List Char}

theorem Linked.serviceOf (h : c.Linked u) {o : Outgoing} (ho : u.client.request call = .ok o) :
    ∃ secret, c.net.serviceOf o = some (.management secret) := by
  obtain ⟨secret, hlookup⟩ := h.served
  refine ⟨secret, ?_⟩
  rw [Network.serviceOf, if_pos h.connected, Client.server_of_request ho, hlookup]

/-- A request to the management node is served there. -/
theorem send_of_management {o : Outgoing} {secret : String} (h : c.net.serviceOf o = some (.management secret))
    (within : Nat) : c.send within o =
      let x := (c.reached o).serve within o.request
      if x.2.1 < within then ⟨x.1, x.2.1, .answered x.2.2.onWire⟩ else ⟨x.1, within, .timedOut⟩ := by
  unfold send
  unfold Network.serviceOf at h
  rw [h]
  rfl

/-- A call of a linked uplink is the request for the action that the call asks for. -/
theorem Linked.request (h : c.Linked u) (hasks : call.AsksFor a found) : ∃ o, u.client.request call = .ok o ∧
    o.body = call.body ∧ o.url.query = addQuery call.query u.client.base.query ∧
    dispatch c.roster.policy.secret routes o.request = .ok ⟨a, found, false⟩ := by
  obtain ⟨o, ho⟩ := u.client.request_of_takes call h.takes
  obtain ⟨v, hv, rfl⟩ := Client.request_eq_ok ho
  obtain ⟨s, rest, hsegments, hne⟩ := hasks.first
  have hjoin := Url.join?_root s.toList (rest.map String.toList) h.root
    (fun hnil => hne (String.toList_eq_nil_iff.mp hnil))
    (by
      rw [← List.map_cons, ← hsegments]
      exact List.forall_mem_map.mpr hasks.plain)
    (by
      rw [← List.map_cons, ← hsegments]
      exact List.forall_mem_map.mpr hasks.stays)
  obtain ⟨v', p, hv', hquery, hpath, hpieces⟩ := hjoin
  rw [← List.map_cons, ← hsegments] at hv' hpieces
  obtain rfl : v' = v := Option.some.inj (hv'.symm.trans hv)
  refine ⟨_, ho, rfl, congrArg (addQuery call.query) hquery, ?_⟩
  obtain ⟨route, hroute, hmethod⟩ := hasks.route
  rw [Url.isSpecial_of_takes h.takes] at hpieces
  refine dispatch_of_pieces ?_ hpath ?_ hmethod
  · refine carries_iff.mpr ?_
    rw [← h.secret]
    exact (Outgoing.presents_iff _ _).mpr (h.secret ▸ h.usable)
  · rw [hpieces]
    exact hroute

/-- What a call of a linked uplink comes to: its action is performed, and told if the worker has not given up. -/
theorem Linked.call_eq (h : c.Linked u) (hasks : call.AsksFor a found) : ∃ o, u.client.request call = .ok o ∧
    o.body = call.body ∧ o.url.query = addQuery call.query u.client.base.query ∧
    c.call u call =
      let x := (c.reached o).perform u.timeout.nanos a found o.request
      if x.2.1 < u.timeout.nanos then ⟨x.1, x.2.1, call.outcome o.url (.answered x.2.2.onWire)⟩
      else ⟨x.1, u.timeout.nanos, call.outcome o.url .timedOut⟩ := by
  obtain ⟨o, ho, hbody, hquery, hdispatch⟩ := h.request hasks
  obtain ⟨secret, hservice⟩ := h.serviceOf ho
  refine ⟨o, ho, hbody, hquery, ?_⟩
  have hserve : (c.reached o).serve u.timeout.nanos o.request =
      (c.reached o).perform u.timeout.nanos a found o.request := by
    unfold serve
    rw [show (c.reached o).roster.policy.secret = c.roster.policy.secret from rfl, hdispatch]
    rfl
  unfold Cluster.call
  rw [ho]
  dsimp only
  rw [send_of_management hservice, hserve]
  dsimp only
  split
  · rfl
  · rfl

end Cluster

end Muster
