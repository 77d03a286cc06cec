import Muster.Proofs.Network.Kind
import Muster.Proofs.Network.Traffic
import Muster.Proofs.Roster.Collect

/-! # Errors of engines

An engine fails a command with a chain of causes, the text of which comes back to the caller on one of two ways. Where
the command was to change something, the text is a field of the result, and arrives exactly as it was raised. Where the
command was a question, it is the body of a refusal: it loses the blanks at its ends, and the status stands for it if
nothing remains. -/

namespace Muster

open Worker

variable {α : Type} {call : Call α} {client : Client} {net : Network} {c : Command} {i within : Nat}
variable {chain : List String}

/-! ### Commands that fail -/

/-- The engine and the command that the request of a call becomes, if a worker takes it as one. -/
def Client.command? (client : Client) (net : Network) (call : Call α) : Option (Nat × Command) :=
  match client.request call with
  | .error _ => none
  | .ok o =>
    match net.serviceOf o with
    | some (.worker mount secret i) =>
      (belowMount mount o.request.path).bind fun path =>
        match handle secret { o.request with path := path } with
        | .command c _ => some (i, c)
        | .answered _ => none
    | _ => none

/-- The chain of causes with which an engine fails a command, innermost first, if it fails it. -/
def Network.failure? (net : Network) (i : Nat) (c : Command) : Option (List String) :=
  net.engines[i]?.bind fun e => Engine.forMethod e.fail c

/-- The chain of causes that a call to the node raises, if a worker takes the call before its sender gives up and its
engine fails it. -/
def Node.raised? (n : Node) (net : Network) (within : Nat) (call : Call α) : Option (List String) :=
  match n.client.command? net call with
  | some (i, c) => if net.delayOf i c < within then net.failure? i c else none
  | none => none

theorem Client.command?_eq_some (h : client.command? net call = some (i, c)) :
    ∃ o mount secret path headOnly, client.request call = .ok o ∧
      net.serviceOf o = some (.worker mount secret i) ∧ belowMount mount o.request.path = some path ∧
      handle secret { o.request with path := path } = .command c headOnly := by
  unfold command? at h
  split at h
  · cases h
  next o ho =>
  split at h
  · next mount secret j hservice =>
    obtain ⟨path, hmount, h⟩ := Option.bind_eq_some_iff.mp h
    split at h
    · next c' headOnly hhandle =>
      cases h
      exact ⟨o, mount, secret, path, headOnly, ho, hservice, hmount, hhandle⟩
    · cases h
  · cases h

/-- Only a request for the head of an answer is answered with the head alone. -/
theorem Worker.headOnly_of_handle {secret : String} {r : Http.Request} {headOnly : Bool} (hmethod : r.method ≠ "HEAD")
    (h : handle secret r = .command c headOnly) : headOnly = false := by
  obtain ⟨-, route, -, a, name, -, haction, -⟩ := handle_eq_command h
  rcases Http.Route.action?_eq_some haction with ⟨-, hbody⟩ | ⟨hhead, -⟩
  · exact hbody
  · exact absurd hhead hmethod

/-- Whoever waits for an engine has sent a request that a worker took as a command. -/
theorem Network.command_of_arrive {o : Outgoing} {headOnly : Bool} (h : (net.arrive o).2.2 = .command i c headOnly) :
    ∃ secret path, handle secret { o.request with path := path } = .command c headOnly := by
  rw [arrive_eq] at h
  cases hservice : net.serviceOf o with
  | none =>
    rw [hservice] at h
    cases h
  | some service =>
    rw [hservice] at h
    dsimp only at h
    rcases receive_cases service o.request with
      ⟨delay, response, hreceive, -⟩ | ⟨mount, secret, j, path, d, headOnly', -, -, hhandle, hreceive⟩
    · rw [hreceive] at h
      cases h
    · rw [hreceive] at h
      cases h
      exact ⟨secret, path, hhandle⟩

theorem Network.flight_of_launch {o : Outgoing} {headOnly : Bool}
    (h : (net.launch within o).2.2 = .command i c headOnly) : (net.arrive o).2.2 = .command i c headOnly := by
  rw [launch_eq] at h
  split at h
  · exact h
  · cases h

/-- A call that waits for an engine waits for a command of its own sort, of which the whole answer comes back. -/
theorem Client.command_of_launch (hmethod : call.method ≠ "HEAD") {url : Url} {headOnly : Bool}
    (h : (client.launch net within call).2.2 = .sent url (.command i c headOnly)) :
    c.asks = asks call.method ∧ headOnly = false := by
  unfold launch at h
  cases ho : client.request call with
  | error e =>
    rw [ho] at h
    cases h
  | ok o =>
    rw [ho] at h
    obtain ⟨-, hflight⟩ := Pending.sent.inj h
    obtain ⟨secret, path, hhandle⟩ := Network.command_of_arrive (Network.flight_of_launch hflight)
    have hsame : o.method = call.method := method_of_request ho
    have hrequest : ({ o.request with path := path } : Http.Request).method = call.method := hsame
    exact ⟨(asks_of_handle hhandle).trans (congrArg asks hrequest), headOnly_of_handle (hrequest ▸ hmethod) hhandle⟩

/-- A command that is taken in time waits for the engine. -/
theorem Client.launch_of_command (hmethod : call.method ≠ "HEAD") (h : client.command? net call = some (i, c))
    (hlt : net.delayOf i c < within) : ∃ o, client.launch net within call =
      ((net.deliver o).begin i c, net.delayOf i c, .sent o.url (.command i c false)) := by
  obtain ⟨o, mount, secret, path, headOnly, ho, hservice, hmount, hhandle⟩ := command?_eq_some h
  have hsame : o.method = call.method := method_of_request ho
  obtain rfl := headOnly_of_handle (show o.method ≠ "HEAD" from hsame ▸ hmethod) hhandle
  refine ⟨o, ?_⟩
  unfold launch
  rw [ho]
  dsimp only
  rw [Network.launch_eq, Network.arrive_of_command hservice hmount hhandle, if_pos hlt]

namespace Network

theorem failure?_begin (net : Network) (o : Outgoing) (i : Nat) (c : Command) :
    ((net.deliver o).begin i c).failure? i c = net.failure? i c := by
  show (net.engines.modify i (·.begin c))[i]?.bind _ = _
  rw [List.getElem?_modify_eq]
  unfold failure?
  cases net.engines[i]? <;> rfl

/-- What comes back of a command that fails. -/
theorem land_of_failure (h : net.failure? i c = some chain) (headOnly : Bool) :
    (net.land (.command i c headOnly)).2 = .answered (delivered c headOnly (.failed chain)).onWire := by
  obtain ⟨e, he, hfail⟩ := Option.bind_eq_some_iff.mp h
  have hanswer : (e.finish c).2 = .failed chain := by
    unfold Engine.finish
    rw [hfail]
  show Exchange.answered (delivered c headOnly (net.finish i c).2).onWire = _
  rw [answer_finish, he]
  dsimp only
  rw [hanswer]

end Network

/-! ### What is told of the failure -/

/-- What is told of an error in answer to a question. -/
def askedText (chain : List String) : String :=
  let text := Text.trimmed (chainText chain.reverse)
  if text = "" then "500 Internal Server Error" else text

theorem refusalText_failureOf (chain : List String) : refusalText (failureOf chain) = askedText chain := by
  unfold refusalText askedText
  have hstatus : Http.statusText (failureOf chain).status = "500 Internal Server Error" :=
    show Http.statusText 500 = _ by decide
  rw [hstatus]
  rfl

/-- If an engine fails a command of the call's sort, its error is told as `text` makes it from the chain. -/
def Call.Carries (call : Call α) (text : List String → String) : Prop :=
  ∀ (n : Node) (c : Command) (chain : List String) (url : Url), c.asks = asks call.method →
    n.outcome (call.outcome url (.answered (delivered c false (.failed chain)).onWire)) =
      .error (.worker (text chain))

theorem Call.carries_of_change {call : Call Unit} (hread : call.read = readResult) (hasks : asks call.method = false) :
    call.Carries fun chain => chainText chain.reverse := by
  intro n c chain url hc
  have hdelivered : (delivered c false (.failed chain)).onWire =
      .json (CommandResult.failed (chainText chain.reverse)).encode :=
    congrArg Http.Response.onWire (respond_of_change (hc.trans hasks) chain)
  rw [hdelivered, call.outcome_of_success url rfl, hread, readResult_failed]
  rfl

theorem Call.carries_of_question (hasks : asks call.method = true) : call.Carries askedText := by
  intro n c chain url hc
  have hdelivered : (delivered c false (.failed chain)).onWire = failureOf chain :=
    congrArg Http.Response.onWire (respond_of_question (hc.trans hasks) chain)
  rw [hdelivered, call.outcome_of_refusal url rfl]
  show Except.error (ClusterError.worker (refusalText (failureOf chain))) = _
  rw [refusalText_failureOf]

theorem Node.raised?_eq_some {n : Node} (h : n.raised? net within call = some chain) :
    ∃ i c, n.client.command? net call = some (i, c) ∧ net.delayOf i c < within ∧ net.failure? i c = some chain := by
  unfold raised? at h
  split at h
  · next i c hcommand =>
    split at h
    · next hlt => exact ⟨i, c, hcommand, hlt, h⟩
    · cases h
  · cases h

/-- What is told of a call to a node that is ready and raises an error. -/
theorem Node.told_of_raised {n : Node} {limit : Nat} {text : List String → String} (hcarries : call.Carries text)
    (hmethod : call.method ≠ "HEAD") (hready : n.isReady = true)
    (h : n.raised? net (min limit n.policy.timeout.nanos) call = some chain) :
    (n.relay net limit call).2.told n.policy.timeout = .error (.worker (text chain)) := by
  obtain ⟨i, c, hcommand, hlt, hfail⟩ := raised?_eq_some h
  obtain ⟨o, hlaunch⟩ := Client.launch_of_command hmethod hcommand hlt
  have hasks : c.asks = asks call.method :=
    (Client.command_of_launch hmethod (congrArg (fun x => x.2.2) hlaunch)).1
  have hrelay : n.relay net limit call =
      let landed := ((net.deliver o).begin i c).land (.command i c false)
      (landed.1, ⟨net.delayOf i c, n.outcome (call.outcome o.url landed.2)⟩) := by
    unfold Node.relay Client.send
    rw [if_pos hready, hlaunch]
    rfl
  have htime : net.delayOf i c < n.policy.timeout.nanos := Nat.lt_of_lt_of_le hlt (Nat.min_le_right ..)
  rw [hrelay, Reply.told, if_pos htime]
  dsimp only
  rw [Network.land_of_failure ((net.failure?_begin o i c).trans hfail)]
  exact hcarries n c chain o.url hasks

end Muster
