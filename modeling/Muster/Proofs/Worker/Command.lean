import Muster.Proofs.Http.Dispatch
import Muster.Worker.Router

/-! # Commands of workers

Which command a request to a worker becomes, and how far commands to an engine depend on each other: what an engine
answers to a question is the same after any other question, and whether it fails to make a change, and how long it
takes, is the same after any other change. -/

namespace Muster.Worker

open Http

/-- A command that asks changes nothing. -/
def Command.asks : Command → Bool
  | .version | .status _ | .storages => true
  | .load _ | .unload _ | .registerStorage _ | .unregisterStorage _ => false

/-- Whether a command asks is told by its method. -/
theorem Command.asks_eq (c : Command) : c.asks = ["version", "status", "storages"].contains c.method := by
  cases c <;> rfl

namespace Engine

variable {e : Engine} {c d : Command}

@[simp] theorem delayOf_begin (e : Engine) (c d : Command) : (e.begin d).delayOf c = e.delayOf c := rfl

theorem finish_of_asks (h : c.asks = true) : (e.finish c).1 = e := by
  unfold finish
  split
  · rfl
  · cases c <;> first | rfl | cases h

/-- What fails and how long it takes is not changed by commands. -/
theorem tables_finish (e : Engine) (c : Command) : (e.finish c).1.fail = e.fail ∧ (e.finish c).1.delay = e.delay := by
  unfold finish
  split
  · exact ⟨rfl, rfl⟩
  · cases c <;> exact ⟨rfl, rfl⟩

theorem calls_finish (e : Engine) (c : Command) : (e.finish c).1.calls = e.calls := by
  unfold finish
  split
  · rfl
  · cases c <;> rfl

@[simp] theorem delayOf_finish (e : Engine) (c d : Command) : (e.finish d).1.delayOf c = e.delayOf c := by
  unfold delayOf
  rw [(tables_finish e d).2]

/-- Whether a command that changes something fails is told by the table alone. -/
theorem answer_of_change (h : c.asks = false) :
    (e.finish c).2 = match forMethod e.fail c with | some chain => .failed chain | none => .done := by
  unfold finish
  cases forMethod e.fail c with
  | some chain => rfl
  | none => cases c <;> first | rfl | cases h

/-- The record of a command changes no answer. -/
@[simp] theorem answer_begin (e : Engine) (c d : Command) : ((e.begin d).finish c).2 = (e.finish c).2 := by
  unfold finish begin
  cases forMethod e.fail c with
  | some chain => rfl
  | none => cases c <;> rfl

/-- A command answers as it would without another one of its sort before it. -/
theorem answer_finish (e : Engine) (h : c.asks = d.asks) : ((e.finish d).1.finish c).2 = (e.finish c).2 := by
  cases hd : d.asks with
  | true => rw [finish_of_asks hd]
  | false =>
    rw [hd] at h
    rw [answer_of_change h, answer_of_change h, (tables_finish e d).1]

end Engine

/-! ### Requests -/

/-- The method that the command of an action calls. -/
def Action.method : Action → String
  | .ping => "version"
  | .load => "load"
  | .unload => "unload"
  | .status => "status"
  | .registerStorage => "register_storage"
  | .storages => "storages"
  | .unregisterStorage => "unregister_storage"

/-- Requests of these methods change nothing. -/
def asks (method : String) : Bool := method = "GET" || method = "HEAD"

variable {secret : String} {r : Request} {a : Action} {name : List Char} {c : Command} {headOnly : Bool}
variable {response : Response}

/-- The command of an action is one of the action's. -/
theorem method_commandOf (h : commandOf a name r = .ok c) : c.method = a.method := by
  unfold commandOf at h
  cases a <;> first
    | (cases h; rfl)
    | (cases hx : nameOf name <;> rw [hx] at h <;> cases h; rfl)
    | (cases hx : bodyOf Registration.read r <;> rw [hx] at h <;> cases h; rfl)

theorem commandOf_refused (h : commandOf a name r = .error response) : response.isSuccess = false := by
  unfold commandOf at h
  cases a with
  | ping => cases h
  | storages => cases h
  | registerStorage =>
    cases hx : bodyOf Registration.read r with
    | error response' =>
      rw [hx] at h
      cases h
      exact bodyOf_refused hx
    | ok x => rw [hx] at h; cases h
  | load | unload | status | unregisterStorage =>
    cases hx : nameOf name with
    | error response' =>
      rw [hx] at h
      cases h
      exact nameOf_refused hx
    | ok x => rw [hx] at h; cases h

/-- A request that reaches the engine was admitted, by the route of its path and an action of its method. -/
theorem handle_eq_command (h : handle secret r = .command c headOnly) : carries secret r = true ∧
    ∃ route ∈ routes, ∃ a name, route.match? r.path = some name ∧ route.action? r.method = some (a, headOnly) ∧
      commandOf a name r = .ok c := by
  unfold handle at h
  split at h
  · cases h
  · rename_i a ha
    obtain ⟨hcarries, route, hroute, hmatch, haction⟩ := dispatch_eq_ok ha
    split at h
    · cases h
    · cases h
      exact ⟨hcarries, route, hroute, _, _, hmatch, haction, ‹_›⟩

theorem handle_refused (h : handle secret r = .answered response) : response.isSuccess = false := by
  unfold handle at h
  split at h
  · cases h
    exact dispatch_refused ‹_›
  · split at h
    · cases h
      rename_i a _ response' hcommand
      have hrefused := commandOf_refused hcommand
      unfold Admitted.deliver
      split
      · exact hrefused
      · exact hrefused
    · cases h

/-- Whether a request asks is told by its method. -/
theorem asks_of_handle (h : handle secret r = .command c headOnly) : c.asks = asks r.method := by
  obtain ⟨-, route, hroute, a, name, -, haction, hcommand⟩ := handle_eq_command h
  have table : ∀ route ∈ routes, ∀ x ∈ route.methods,
      ["version", "status", "storages"].contains x.2.method = asks x.1 := by decide
  rw [Command.asks_eq, method_commandOf hcommand]
  rcases Route.action?_eq_some haction with ⟨hmem, -⟩ | ⟨hhead, hmem, -⟩
  · exact table route hroute _ hmem
  · rw [hhead, table route hroute _ hmem]
    rfl

end Muster.Worker
