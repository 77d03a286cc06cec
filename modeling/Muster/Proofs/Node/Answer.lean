import Muster.Proofs.Node.Taken
import Muster.Proofs.Roster.Collect

/-! # What nodes answer

A question to a node has an answer (`Node.Answers`) if the node is ready, and an answer of success comes in time whose
document can be read. Nothing else that can become of a question is told as an answer, and whatever is told in its place
has a text. -/

namespace Muster

open Worker

variable {α β : Type}

/-- The node answers a call with `x`: it is ready, and before its sender gives up comes an answer of success whose
document is `x`. -/
def Node.Answers (n : Node) (net : Network) (within : Nat) (call : Call α) (read : Json.Decoder β) (x : β) : Prop :=
  n.isReady = true ∧ ∃ o answer, n.client.request call = .ok o ∧ (net.reply o).1 < within ∧
    (net.reply o).2 = .answered answer ∧ answer.isSuccess = true ∧ Json.decode read answer.body = .ok x

/-- The answer of the node, if there is one. -/
def Node.answer? (n : Node) (net : Network) (within : Nat) (call : Call α) (read : Json.Decoder β) : Option β :=
  if n.isReady then
    match n.client.request call with
    | .error _ => none
    | .ok o =>
      match net.reply o with
      | (after, .answered answer) =>
        if after < within ∧ answer.isSuccess = true then (Json.decode read answer.body).toOption else none
      | _ => none
  else none

theorem WorkerCall.read_status (source : String) (r : Http.Response) :
    (status source).read r = (readBody StatusNotice.read r).map (·.status) := rfl

namespace Node

section
variable {n : Node} {net : Network} {within limit : Nat} {call : Call α} {read : Json.Decoder β} {x : β}

theorem answer?_eq_some_iff : n.answer? net within call read = some x ↔ n.Answers net within call read x := by
  unfold answer? Answers
  cases hready : n.isReady with
  | false => simp
  | true =>
    cases n.client.request call with
    | error e => simp
    | ok o =>
      rcases hreply : net.reply o with ⟨after, _ | _ | answer⟩
      · simp [hreply]
      · simp [hreply]
      · cases hdecode : Json.decode read answer.body <;> simp [hreply, hdecode, Except.toOption, and_assoc]

instance : Decidable (∃ x, n.Answers net within call read x) :=
  decidable_of_iff ((n.answer? net within call read).isSome = true)
    (by simp only [Option.isSome_iff_exists, answer?_eq_some_iff])

end

/-- Where a call may take time at all, what is told of a call to one node is what came of it: one that does not end in
time has failed with that. -/
theorem told_eq_outcome {n : Node} (htime : 0 < n.policy.timeout.nanos) (net : Network) (limit : Nat) (call : Call α) :
    (n.relay net limit call).2.told n.policy.timeout = (n.relay net limit call).2.outcome := by
  cases hready : n.isReady with
  | false =>
    rw [relay_not_ready hready]
    exact if_pos htime
  | true =>
    cases ho : n.client.request call with
    | error e =>
      rw [relay_unsent hready ho]
      exact if_pos htime
    | ok o =>
      rw [relay_sent hready ho, Network.send_reply]
      by_cases hlt : (net.reply o).1 < min limit n.policy.timeout.nanos
      · rw [if_pos hlt]
        exact if_pos (Nat.lt_of_lt_of_le hlt (Nat.min_le_right ..))
      · rw [if_neg hlt]
        exact ite_self _

section
variable {n : Node} {net : Network} {limit : Nat} {call : Call α} {read : Json.Decoder β} {f : β → α} {x : β} {y : α}
variable (hread : ∀ r, call.read r = (readBody read r).map f)
include hread

/-- What comes of a question that has an answer. -/
theorem Answers.outcome (h : n.Answers net (min limit n.policy.timeout.nanos) call read x) :
    (n.relay net limit call).2.outcome = .ok (f x) ∧ (n.relay net limit call).2.after < n.policy.timeout.nanos := by
  obtain ⟨hready, o, answer, ho, hlt, hanswer, hsuccess, hdecode⟩ := h
  have hx : call.outcome o.url (.answered answer) = .ok (f x) := by
    rw [call.outcome_of_success o.url hsuccess, hread, readBody, hdecode]
    rfl
  rw [relay_sent hready ho, Network.send_reply, if_pos hlt, hanswer, hx]
  exact ⟨rfl, Nat.lt_of_lt_of_le hlt (Nat.min_le_right ..)⟩

/-- A question comes to nothing but what was answered. -/
theorem answers_of_outcome (h : (n.relay net limit call).2.outcome = .ok y) :
    ∃ x, n.Answers net (min limit n.policy.timeout.nanos) call read x ∧ f x = y := by
  obtain ⟨hready, o, answer, ho, hlt, hanswer, hsuccess, hy⟩ := relay_eq_ok h
  rw [hread, readBody] at hy
  cases hdecode : Json.decode read answer.body with
  | error e =>
    rw [hdecode] at hy
    cases hy
  | ok x =>
    rw [hdecode] at hy
    exact ⟨x, ⟨hready, o, answer, ho, hlt, hanswer, hsuccess, hdecode⟩, Except.ok.inj hy⟩

/-- The answer is told. -/
theorem Answers.told (h : n.Answers net (min limit n.policy.timeout.nanos) call read x) :
    (n.relay net limit call).2.told n.policy.timeout = .ok (f x) := by
  obtain ⟨houtcome, hlt⟩ := h.outcome hread
  rw [Reply.told, if_pos hlt, houtcome]

theorem answers_of_told (h : (n.relay net limit call).2.told n.policy.timeout = .ok y) :
    ∃ x, n.Answers net (min limit n.policy.timeout.nanos) call read x ∧ f x = y :=
  answers_of_outcome hread (Reply.told_eq_ok h)

/-- What is told where there is no answer has a text. -/
theorem text_of_told {deadline : Duration} {e : ClusterError} (h : (n.relay net limit call).2.told deadline = .error e) :
    e.text ≠ "" := by
  rcases Reply.told_eq_error h with houtcome | rfl
  · refine text_relay (fun r text hr => ?_) houtcome
    rw [hread] at hr
    exact text_of_readBody hr
  · exact ClusterError.text_timeout _

end

end Node

end Muster
