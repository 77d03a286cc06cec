import Muster.Proofs.Network.Traffic
import Muster.Proofs.Node.Effect
import Muster.Roster.FanOut

/-! # Commands taken at nodes

A call to a node that a worker takes as a command (`Node.Takes`) is answered with what the worker's engine answers. What
every request of a call keeps is kept when the call is made to any nodes, one after another. -/

namespace Muster

open Worker

/-! ### What is kept -/

section
variable {α : Type} {call : Call α} {R : Network → Network → Prop}

theorem Node.relay_keeps (hrefl : ∀ net, R net net)
    (hsend : ∀ (client : Client) (o : Outgoing) (net : Network) (within : Nat), client.request call = .ok o →
      R net (net.send within o).1) (n : Node) (net : Network) (limit : Nat) : R net (n.relay net limit call).1 := by
  cases hready : n.isReady with
  | false =>
    rw [relay_not_ready hready]
    exact hrefl net
  | true =>
    cases hrequest : n.client.request call with
    | error e =>
      rw [relay_unsent hready hrequest]
      exact hrefl net
    | ok o =>
      rw [relay_sent hready hrequest]
      exact hsend n.client o net _ hrequest

theorem Node.kept_relay (n : Node) (net : Network) (limit : Nat) (call : Call α) :
    net.Kept (n.relay net limit call).1 :=
  n.relay_keeps Network.Kept.refl (fun _ _ net within _ => Network.kept_send net within _) net limit

theorem callEach_keeps (hrefl : ∀ net, R net net) (htrans : ∀ a b c, R a b → R b c → R a c)
    (hsend : ∀ (client : Client) (o : Outgoing) (net : Network) (within : Nat), client.request call = .ok o →
      R net (net.send within o).1) (limit : Nat) (net : Network) (nodes : List Node) :
    R net (callEach (fun n net => n.relay net limit call) net nodes).1 := by
  induction nodes generalizing net with
  | nil => exact hrefl net
  | cons n nodes ih => exact htrans _ _ _ (n.relay_keeps hrefl hsend net limit) (ih _)

theorem heard_callEach {c : Command} (hmeans : call.Means c) (limit : Nat) (net : Network) (nodes : List Node) :
    net.Heard c (callEach (fun n net => n.relay net limit call) net nodes).1 :=
  callEach_keeps (Network.Heard.refl c) (fun _ _ _ => .trans)
    (fun _ _ net within ho => Network.heard_send hmeans ho net within) limit net nodes

theorem kept_callEach (call : Call α) (limit : Nat) (net : Network) (nodes : List Node) :
    net.Kept (callEach (fun n net => n.relay net limit call) net nodes).1 :=
  callEach_keeps Network.Kept.refl (fun _ _ _ => .trans) (fun _ _ net within _ => Network.kept_send net within _) limit
    net nodes

end

/-! ### What is taken -/

section
variable {α : Type} {call : Call α} {n : Node} {a b net : Network} {c : Command} {o : Outgoing} {i limit within : Nat}
variable {e e' : Engine}

/-- A call to a node that is ready is a request that a worker takes as a command. -/
structure Node.Takes (n : Node) (net : Network) (call : Call α) (c : Command) (o : Outgoing) (i : Nat) : Prop where
  ready : n.isReady = true
  request : n.client.request call = .ok o
  serving : net.serving n.client.base = some i
  arrives : ∃ mount secret path, net.serviceOf o = some (.worker mount secret i) ∧
    belowMount mount o.request.path = some path ∧ handle secret { o.request with path := path } = .command c false

theorem Node.Takes.kept (h : n.Takes a call c o i) (k : a.Kept b) : n.Takes b call c o i where
  ready := h.ready
  request := h.request
  serving := (Network.serving_congr k.connected k.services _).trans h.serving
  arrives := by
    obtain ⟨mount, secret, path, hservice, hrest⟩ := h.arrives
    refine ⟨mount, secret, path, ?_, hrest⟩
    unfold Network.serviceOf at hservice ⊢
    rw [k.connected, k.services]
    exact hservice

theorem Node.Takes.arrive_eq (h : n.Takes net call c o i) :
    net.arrive o = ((net.deliver o).begin i c, net.delayOf i c, .command i c false) := by
  obtain ⟨mount, secret, path, hservice, hmount, hhandle⟩ := h.arrives
  exact Network.arrive_of_command hservice hmount hhandle

/-- A worker that takes a command answers what its engine does. -/
theorem Node.Takes.reply_eq (h : n.Takes net call c o i) (he : net.engines[i]? = some e) :
    net.reply o = (e.delayOf c, .answered (delivered c false (e.finish c).2).onWire) := by
  have hanswer : (((net.deliver o).begin i c).finish i c).2 = (e.finish c).2 := by
    have hbegun : ((net.deliver o).begin i c).engines[i]? = some (e.begin c) := by
      show (net.engines.modify i (·.begin c))[i]? = _
      rw [List.getElem?_modify_eq, he]
      rfl
    rw [Network.answer_finish, hbegun]
    exact Engine.answer_begin e c c
  unfold Network.reply
  rw [h.arrive_eq, Network.delayOf_eq he, ← hanswer]
  rfl

/-- A command that an engine is willing to carry out is carried out before its sender gives up. -/
theorem Node.Takes.engines_relay (h : n.Takes net call c o i) (he : net.engines[i]? = some e)
    (hwilling : e.Willing c (min limit n.policy.timeout.nanos)) :
    (n.relay net limit call).1.engines = net.engines.modify i fun e => ((e.begin c).finish c).1 := by
  rw [relay_sent h.ready h.request, Network.send_of_lt (by rw [h.reply_eq he]; exact hwilling.quick), h.arrive_eq]
  exact (net.deliver o).engines_finish i c

end

/-- A call that succeeded was sent to a node that is ready, and was answered in time with success. -/
theorem Node.relay_eq_ok {α : Type} {call : Call α} {n : Node} {net : Network} {limit : Nat} {x : α}
    (h : (n.relay net limit call).2.outcome = .ok x) : n.isReady = true ∧ ∃ o answer,
      n.client.request call = .ok o ∧ (net.reply o).1 < min limit n.policy.timeout.nanos ∧
      (net.reply o).2 = .answered answer ∧ answer.isSuccess = true ∧ call.read answer = .ok x := by
  cases hready : n.isReady with
  | false =>
    rw [relay_not_ready hready] at h
    cases h
  | true =>
    cases ho : n.client.request call with
    | error e =>
      rw [relay_unsent hready ho] at h
      cases h
    | ok o =>
      rw [relay_sent hready ho] at h
      have houtcome := n.outcome_eq_ok h
      rw [Network.send_reply] at houtcome
      split at houtcome
      · next hlt =>
        cases hx : (net.reply o).2 with
        | answered answer =>
          rw [hx] at houtcome
          cases hsuccess : answer.isSuccess with
          | false => cases houtcome.symm.trans (call.outcome_of_refusal o.url hsuccess)
          | true =>
            rw [call.outcome_of_success o.url hsuccess] at houtcome
            refine ⟨rfl, o, answer, rfl, hlt, hx, hsuccess, ?_⟩
            cases hread : call.read answer with
            | error text =>
              rw [hread] at houtcome
              cases houtcome
            | ok y =>
              rw [hread] at houtcome
              exact congrArg Except.ok (Except.ok.inj houtcome)
        | unreachable | timedOut =>
          rw [hx] at houtcome
          cases houtcome
      · cases houtcome

theorem Network.command_of_reply {net : Network} {base : Url} {o : Outgoing} {i : Nat} {answer : Http.Response}
    (hserving : net.serving base = some i) (hserver : o.url.server = base.server)
    (hreply : (net.reply o).2 = .answered answer) (hsuccess : answer.isSuccess = true) :
    ∃ mount secret path c headOnly, net.services.lookup base.server = some (.worker mount secret i) ∧
      belowMount mount o.request.path = some path ∧
      handle secret { o.request with path := path } = .command c headOnly := by
  obtain ⟨hconnected, -, mount, secret, hlookup⟩ := serving_eq_some hserving
  have hservice : net.serviceOf o = some (.worker mount secret i) := by
    rw [serviceOf, if_pos hconnected, hserver, hlookup]
  rcases receive_cases (.worker mount secret i) o.request with
    ⟨delay, response, hreceive, hrefused⟩ | ⟨mount', secret', i', path, c, headOnly, heq, hmount, hhandle, -⟩
  · have harrive : net.arrive o = (net.deliver o, delay, .answered response) := by
      rw [arrive_eq, hservice]
      exact hreceive _
    unfold reply at hreply
    rw [harrive] at hreply
    obtain rfl : response.onWire = answer := Exchange.answered.inj hreply
    rw [Http.Response.isSuccess_onWire, hrefused mount secret i rfl] at hsuccess
    cases hsuccess
  · cases heq
    exact ⟨mount, secret, path, c, headOnly, hlookup, hmount, hhandle⟩

end Muster
