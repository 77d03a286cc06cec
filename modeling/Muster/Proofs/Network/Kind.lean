import Muster.Network.Client
import Muster.Proofs.Document.Status
import Muster.Proofs.Http.LastPiece
import Muster.Proofs.Node.Relay

/-! # Kinds of commands

A call to a worker is of a kind: wherever it is sent, and wherever the worker's routes are mounted there, it becomes no
command to the engine of another kind, and it fails if the engine fails. -/

namespace Muster

open Worker

/-! ### What requests become -/

namespace Worker

/-- Methods of requests, what their paths end with, and the methods of the commands that they become. -/
def kinds : List (String × String × String) :=
  [("POST", "load", "load"), ("POST", "unload", "unload"), ("GET", "status", "status"),
    ("POST", "storages", "register_storage"), ("GET", "storages", "storages")]

variable {secret : String} {r : Http.Request} {c : Command} {headOnly : Bool}

/-- The kind of a command is told by the method of its request and what the path ends with. -/
theorem kind_of_handle {x : String × String × String} (hx : x ∈ kinds) (hmethod : r.method = x.1)
    (hlast : lastPiece r.path = x.2.1.toList) (h : handle secret r = .command c headOnly) : c.method = x.2.2 := by
  have notHead : ∀ x ∈ kinds, x.1 ≠ "HEAD" := by decide
  have table : ∀ route ∈ routes, ∀ y ∈ route.methods, ∀ x ∈ kinds, y.1 = x.1 →
      ∃ s ∈ ["ping", "load", "unload", "status", "storages"],
        route.path.getLast? = some (.fixed s) ∧ (s = x.2.1 → y.2.method = x.2.2) := by decide
  obtain ⟨-, route, hroute, a, name, hmatch, haction, hcommand⟩ := handle_eq_command h
  rw [method_commandOf hcommand]
  rcases Http.Route.action?_eq_some haction with ⟨hmem, -⟩ | ⟨hhead, -, -⟩
  · obtain ⟨s, -, hs, hkind⟩ := table route hroute _ hmem x hx hmethod
    have hend : lastPiece r.path = s.toList := Http.lastPiece_of_match hmatch hs
    exact hkind (String.toList_inj.mp (hend.symm.trans hlast))
  · exact absurd (hmethod.symm.trans hhead) (notHead x hx)

theorem path_of_handle (h : handle secret r = .command c headOnly) : r.path ≠ ['/'] := by
  have table : ∀ route ∈ routes, route.match? ['/'] = none := by decide
  obtain ⟨-, route, hroute, a, name, hmatch, -⟩ := handle_eq_command h
  rintro hpath
  rw [hpath, table route hroute] at hmatch
  cases hmatch

theorem kind_of_delete (hmethod : r.method = "DELETE") (h : handle secret r = .command c headOnly) :
    c.method = "unregister_storage" := by
  have table : ∀ route ∈ routes, ∀ y ∈ route.methods, y.1 = "DELETE" → y.2.method = "unregister_storage" := by decide
  obtain ⟨-, route, hroute, a, name, -, haction, hcommand⟩ := handle_eq_command h
  rw [method_commandOf hcommand]
  rcases Http.Route.action?_eq_some haction with ⟨hmem, -⟩ | ⟨hhead, -, -⟩
  · exact table route hroute _ hmem hmethod
  · rw [hmethod] at hhead
    exact absurd hhead (by decide)

end Worker

/-! ### Calls -/

variable {α : Type} {call : Call α}

/-- A call is of a kind. -/
structure Call.Commands (call : Call α) (kind : String) : Prop where
  /-- A worker that takes its request makes no command of another kind of it. -/
  becomes : ∀ {client : Client} {o : Outgoing}, client.request call = .ok o →
    ∀ {mount secret : String} {path : List Char} {c : Command} {headOnly : Bool},
      belowMount mount o.request.path = some path →
      handle secret { o.request with path := path } = .command c headOnly → c.method = kind
  /-- It fails if the engine does. -/
  fails : ∀ {c : Command}, c.method = kind → ∀ (headOnly : Bool) (chain : List String) (url : Url),
    ∃ e, call.outcome url (.answered (delivered c headOnly (.failed chain)).onWire) = .error e

theorem Call.kind_of_last (front : List String) (last : String) {kind : String}
    (hx : (call.method, last, kind) ∈ kinds) (hsegments : call.segments = front ++ [last])
    {client : Client} {o : Outgoing} (ho : client.request call = .ok o)
    {mount secret : String} {path : List Char} {c : Command} {headOnly : Bool}
    (hmount : belowMount mount o.request.path = some path)
    (h : handle secret { o.request with path := path } = .command c headOnly) : c.method = kind := by
  have plain : ∀ x ∈ kinds, (∀ special : Bool, Url.encodeSegment special x.2.1.toList = x.2.1.toList) ∧
      Url.isAbove x.2.1.toList = false ∧ Url.isHere x.2.1.toList = false ∧ '/' ∉ x.2.1.toList ∧
      x.2.1.toList ≠ [] := by decide
  obtain ⟨hencode, habove, hhere, hslash, hne⟩ := plain _ hx
  obtain ⟨u, hu, rfl⟩ := Client.request_eq_ok ho
  have hpath : lastPiece u.path.print = last.toList := by
    rw [hsegments, List.map_append] at hu
    exact Url.lastPiece_join? hu (hencode _) ⟨habove, hhere, hslash⟩
  rcases lastPiece_belowMount hmount with hroot | hbelow
  · exact absurd hroot (path_of_handle h)
  · exact kind_of_handle hx rfl (hbelow.trans hpath) h

theorem Call.outcome_of_success (call : Call α) (url : Url) {r : Http.Response} (h : r.isSuccess = true) :
    call.outcome url (.answered r) =
      match call.read r with
      | .ok a => .ok a
      | .error e => .error (.unusable e) :=
  if_pos h

theorem Call.outcome_of_refusal (call : Call α) (url : Url) {r : Http.Response} (h : r.isSuccess = false) :
    call.outcome url (.answered r) = .error (.refused (refusalText r)) :=
  if_neg (by rw [h]; exact Bool.false_ne_true)

/-- The document of an answer is read as what it spells out. -/
theorem readBody_json {read : Json.Decoder α} {v : Json.Value} {levels : Nat} {x : α} (h : Json.Spells v read levels x)
    (hroom : levels ≤ Json.maxDepth) : readBody read (.json v) = .ok x := by
  have hbody : (Http.Response.json v).body = v.text := rfl
  unfold readBody
  rw [hbody, h.decode hroom]

/-- A result that reports a failure is read as the failure. -/
theorem readResult_failed (message : String) :
    readResult (.json (CommandResult.failed message).encode) = .error message := by
  unfold readResult
  rw [readBody_json (CommandResult.spelled (.failed message)) (by decide)]
  rfl

theorem respond_of_change {c : Command} (hc : c.asks = false) (chain : List String) :
    respond c (.failed chain) = .json (CommandResult.failed (chainText chain.reverse)).encode := by
  cases c <;> first | rfl | cases hc

theorem respond_of_question {c : Command} (hc : c.asks = true) (chain : List String) :
    respond c (.failed chain) = failureOf chain := by
  cases c <;> first | rfl | cases hc

/-- A call whose answer is read as a result fails if the engine fails to change something. -/
theorem Call.fails_of_change {call : Call Unit} (hread : call.read = readResult) {c : Command} (hc : c.asks = false)
    (headOnly : Bool) (chain : List String) (url : Url) :
    ∃ e, call.outcome url (.answered (delivered c headOnly (.failed chain)).onWire) = .error e := by
  unfold delivered
  rw [respond_of_change hc]
  cases headOnly with
  | true =>
    -- An answer without a body is no document.
    refine ⟨.unusable undecodable, (call.outcome_of_success url rfl).trans ?_⟩
    rw [hread]
    rfl
  | false =>
    refine ⟨.unusable (chainText chain.reverse), (call.outcome_of_success url rfl).trans ?_⟩
    rw [hread, show (if false = true then _ else Http.Response.json _).onWire =
      Http.Response.json (CommandResult.failed (chainText chain.reverse)).encode from rfl, readResult_failed]

theorem Call.fails_of_question (call : Call α) {c : Command} (hc : c.asks = true) (headOnly : Bool)
    (chain : List String) (url : Url) :
    ∃ e, call.outcome url (.answered (delivered c headOnly (.failed chain)).onWire) = .error e := by
  unfold delivered
  rw [respond_of_question hc]
  cases headOnly with
  | true => exact ⟨_, call.outcome_of_refusal url rfl⟩
  | false => exact ⟨_, call.outcome_of_refusal url rfl⟩

namespace WorkerCall

theorem load_commands (name : String) : (load name).Commands "load" where
  becomes := Call.kind_of_last ["cluster", "data-sources", name] "load"
    (show ("POST", "load", "load") ∈ kinds by decide) rfl
  fails := fun hc => Call.fails_of_change rfl (by rw [Command.asks_eq, hc]; decide)

theorem unload_commands (name : String) : (unload name).Commands "unload" where
  becomes := Call.kind_of_last ["cluster", "data-sources", name] "unload"
    (show ("POST", "unload", "unload") ∈ kinds by decide) rfl
  fails := fun hc => Call.fails_of_change rfl (by rw [Command.asks_eq, hc]; decide)

theorem status_commands (name : String) : (status name).Commands "status" where
  becomes := Call.kind_of_last ["cluster", "data-sources", name] "status"
    (show ("GET", "status", "status") ∈ kinds by decide) rfl
  fails := fun hc => Call.fails_of_question _ (by rw [Command.asks_eq, hc]; decide)

theorem registerStorage_commands (r : Registration) : (registerStorage r).Commands "register_storage" where
  becomes := Call.kind_of_last ["cluster"] "storages"
    (show ("POST", "storages", "register_storage") ∈ kinds by decide) rfl
  fails := fun hc => Call.fails_of_change rfl (by rw [Command.asks_eq, hc]; decide)

theorem storages_commands : storages.Commands "storages" where
  becomes := Call.kind_of_last ["cluster"] "storages"
    (show ("GET", "storages", "storages") ∈ kinds by decide) rfl
  fails := fun hc => Call.fails_of_question _ (by rw [Command.asks_eq, hc]; decide)

theorem unregisterStorage_commands (name : String) : (unregisterStorage name).Commands "unregister_storage" where
  becomes := fun ho _ _ _ _ _ _ h => kind_of_delete (Client.method_of_request ho) h
  fails := fun hc => Call.fails_of_change rfl (by rw [Command.asks_eq, hc]; decide)

end WorkerCall

end Muster
