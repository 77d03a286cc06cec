import Muster.Node.Basic
import Muster.Proofs.Network.Reply

/-! # Relayed calls

What a call to a node comes to: nothing is sent for a node that is not ready or whose address takes no request, and
otherwise one request is. Calls of one sort do not change what other calls of the sort come to. -/

namespace Muster

open Worker

variable {α : Type} {call : Call α} {o : Outgoing} {e : CallError}

/-- The address that a call asks below an address, which names no user. -/
def Call.asked (call : Call α) (u : Url) : Url := { u.withoutUser with query := addQuery call.query u.query }

theorem Client.request_eq (c : Client) (call : Call α) : c.request call =
    match c.base.join? (call.segments.map String.toList) with
    | none => .error (.noBase c.base)
    | some u =>
      if u.hasHost then
        if (call.asked u).scheme ≠ "http".toList ∧ (call.asked u).scheme ≠ "https".toList then
          .error (.badScheme (call.asked u))
        else if Http.isServer (call.asked u).server.toList then .ok ⟨call.method, call.asked u, c.secret, call.body⟩
        else .error (.badServer (call.asked u))
      else .error (.badScheme u) := rfl

/-- The request of a call goes below the client's address, with the method and body of the call. -/
theorem Client.request_eq_ok {c : Client} (h : c.request call = .ok o) :
    ∃ u, c.base.join? (call.segments.map String.toList) = some u ∧
      o = ⟨call.method, call.asked u, c.secret, call.body⟩ := by
  rw [request_eq] at h
  split at h
  · cases h
  · rename_i u hu
    split at h
    · split at h
      · cases h
      · split at h
        · exact ⟨u, hu, (Except.ok.inj h).symm⟩
        · cases h
    · cases h

theorem Client.method_of_request {c : Client} (h : c.request call = .ok o) : o.method = call.method := by
  obtain ⟨u, -, rfl⟩ := request_eq_ok h
  rfl

/-- Why a request cannot be made: its address is no base, none of HTTP, or names no server. -/
theorem Client.request_eq_error {c : Client} (h : c.request call = .error e) :
    ∃ url, e = .noBase url ∨ e = .badScheme url ∨ e = .badServer url := by
  rw [request_eq] at h
  split at h
  · exact ⟨_, Or.inl (Except.error.inj h).symm⟩
  · split at h
    · split at h
      · exact ⟨_, Or.inr (Or.inl (Except.error.inj h).symm)⟩
      · split at h
        · cases h
        · exact ⟨_, Or.inr (Or.inr (Except.error.inj h).symm)⟩
    · exact ⟨_, Or.inr (Or.inl (Except.error.inj h).symm)⟩

/-! ### Texts of errors -/

theorem append_ne_empty {a b : String} (h : a ≠ "") : a ++ b ≠ "" :=
  fun hab => h (String.append_eq_empty_iff.mp hab).1

theorem ClusterError.text_timeout (limit : Duration) : (ClusterError.timeout limit).text ≠ "" :=
  append_ne_empty (by decide)

theorem refusalText_ne_empty (r : Http.Response) : refusalText r ≠ "" := by
  unfold refusalText
  dsimp only
  split
  · unfold Http.statusText
    exact fun h => absurd (String.append_eq_empty_iff.mp (String.append_eq_empty_iff.mp h).1).2 (by decide)
  · assumption

theorem text_of_readBody {β : Type} {read : Json.Decoder β} {f : β → α} {r : Http.Response} {text : String}
    (h : (readBody read r).map f = .error text) : text ≠ "" := by
  unfold readBody at h
  split at h
  · cases h
  · obtain rfl := Except.error.inj h
    decide

theorem Client.text_of_request {c : Client} (h : c.request call = .error e) : e.text ≠ "" := by
  rcases request_eq_error h with ⟨url, rfl | rfl | rfl⟩
  · exact append_ne_empty (append_ne_empty (by decide))
  · exact append_ne_empty (append_ne_empty (by decide))
  · exact append_ne_empty (append_ne_empty (by decide))

theorem Call.text_of_outcome (hread : ∀ r text, call.read r = .error text → text ≠ "") {url : Url} {x : Exchange}
    (h : call.outcome url x = .error e) : e.text ≠ "" := by
  cases x with
  | unreachable =>
    obtain rfl := Except.error.inj h
    exact append_ne_empty (append_ne_empty (by decide))
  | timedOut =>
    obtain rfl := Except.error.inj h
    exact append_ne_empty (append_ne_empty (by decide))
  | answered r =>
    unfold outcome at h
    dsimp only at h
    split at h
    · split at h
      · cases h
      · obtain rfl := Except.error.inj h
        exact hread r _ ‹_›
    · obtain rfl := Except.error.inj h
      exact refusalText_ne_empty r

namespace Node

variable {n : Node} {net : Network} {limit : Nat}

theorem relay_not_ready (h : n.isReady = false) (net : Network) (limit : Nat) (call : Call α) :
    n.relay net limit call = (net, ⟨0, .error .notReady⟩) := by
  rw [relay, h]
  rfl

theorem relay_unsent (h : n.isReady = true) (he : n.client.request call = .error e) (net : Network) (limit : Nat) :
    n.relay net limit call = (net, ⟨0, .error (.worker e.text)⟩) := by
  have houtcome : n.outcome (.error e : Except CallError α) = .error (.worker e.text) := by
    obtain ⟨url, rfl | rfl | rfl⟩ := Client.request_eq_error he <;> rfl
  rw [relay, if_pos h, ← houtcome]
  unfold Client.send Client.launch
  rw [he]
  rfl

/-- A call that is sent waits no longer than the policy allows. -/
theorem relay_sent (h : n.isReady = true) (ho : n.client.request call = .ok o) (net : Network) (limit : Nat) :
    n.relay net limit call =
      ((net.send (min limit n.policy.timeout.nanos) o).1,
        ⟨(net.send (min limit n.policy.timeout.nanos) o).2.1,
          n.outcome (call.outcome o.url (net.send (min limit n.policy.timeout.nanos) o).2.2)⟩) := by
  rw [relay, if_pos h]
  unfold Client.send Client.launch
  rw [ho]
  rfl

/-- Calls to a node come to the same in networks that are alike, and leave them so. -/
theorem relay_like {a b : Network} (h : Network.Like (asks call.method) a b) (n : Node) (limit : Nat) :
    (n.relay a limit call).2 = (n.relay b limit call).2 ∧
      Network.Like (asks call.method) (n.relay a limit call).1 b := by
  cases hready : n.isReady with
  | false =>
    rw [relay_not_ready hready, relay_not_ready hready]
    exact ⟨rfl, h⟩
  | true =>
    cases hrequest : n.client.request call with
    | error e =>
      rw [relay_unsent hready hrequest, relay_unsent hready hrequest]
      exact ⟨rfl, h⟩
    | ok o =>
      have ho : asks o.method = asks call.method := congrArg asks (Client.method_of_request hrequest)
      rw [relay_sent hready hrequest, relay_sent hready hrequest]
      refine ⟨?_, (ho ▸ Network.like_send a _ o).trans h⟩
      rw [Network.send_reply, Network.send_reply, h.reply ho]

/-- Why a relayed call fails: the node is not ready, the time is over, or something goes wrong with the call. -/
theorem relay_error {f : ClusterError} (h : (n.relay net limit call).2.outcome = .error f) :
    n.isReady = false ∧ f = .notReady ∨ f = .timeout n.policy.timeout ∨
      ∃ e, f = .worker e.text ∧ (n.client.request call = .error e ∨ ∃ url x, call.outcome url x = .error e) := by
  cases hready : n.isReady with
  | false =>
    rw [relay_not_ready hready] at h
    exact Or.inl ⟨rfl, (Except.error.inj h).symm⟩
  | true =>
    cases hrequest : n.client.request call with
    | error e =>
      rw [relay_unsent hready hrequest] at h
      exact Or.inr (Or.inr ⟨e, (Except.error.inj h).symm, Or.inl rfl⟩)
    | ok o =>
      rw [relay_sent hready hrequest] at h
      dsimp only at h
      cases houtcome : call.outcome o.url (net.send (min limit n.policy.timeout.nanos) o).2.2 with
      | ok x =>
        rw [houtcome] at h
        cases h
      | error e =>
        rw [houtcome] at h
        cases e with
        | timedOut url => exact Or.inr (Or.inl (Except.error.inj h).symm)
        | _ => exact Or.inr (Or.inr ⟨_, (Except.error.inj h).symm, Or.inr ⟨_, _, houtcome⟩⟩)

theorem relay_ne_notReady (h : n.isReady = true) (net : Network) (limit : Nat) (call : Call α) :
    (n.relay net limit call).2.outcome ≠ .error .notReady := by
  intro hx
  rcases relay_error hx with ⟨hnot, -⟩ | hf | ⟨e, hf, -⟩
  · rw [h] at hnot
    cases hnot
  · cases hf
  · cases hf

/-- A call whose answers are never read as an error without a text is never told as one. -/
theorem text_relay (hread : ∀ r text, call.read r = .error text → text ≠ "") {f : ClusterError}
    (h : (n.relay net limit call).2.outcome = .error f) : f.text ≠ "" := by
  rcases relay_error h with ⟨-, rfl⟩ | rfl | ⟨e, rfl, hrequest | ⟨url, x, houtcome⟩⟩
  · decide
  · exact ClusterError.text_timeout n.policy.timeout
  · exact Client.text_of_request hrequest
  · exact Call.text_of_outcome hread houtcome

end Node

end Muster
