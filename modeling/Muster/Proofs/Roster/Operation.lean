import Muster.Roster.FanOut

/-! # Operations on all members

What can be given to all members at once: a mutation, which every worker carries out, or one of two questions. An
operation blames the members that it reports as failed. -/

namespace Muster

theorem map_eq_ok {ε α β : Type} {f : α → β} {x : Except ε α} {b : β} (h : x.map f = .ok b) :
    ∃ a, x = .ok a ∧ f a = b := by
  cases x with
  | error e => cases h
  | ok a => exact ⟨a, rfl, Except.ok.inj h⟩

theorem map_eq_error {ε α β : Type} {f : α → β} {x : Except ε α} {e : ε} (h : x.map f = .error e) : x = .error e := by
  cases x with
  | error e' =>
    obtain rfl : e' = e := Except.error.inj h
    rfl
  | ok a => cases h

/-- A command to all members that changes something at their workers. -/
inductive Mutation
  | load (name : String)
  | unload (name : String)
  | registerStorage (c : Credential)
  | unregisterStorage (name : String)

/-- A mutation, or a question to all members. -/
inductive Operation
  | mutation (m : Mutation)
  | status (name : String)
  | storages

namespace Mutation

/-- What a failure of the mutation is reported under. -/
def action : Mutation → String
  | .load name => "load data source " ++ name
  | .unload name => "unload data source " ++ name
  | .registerStorage c => "register storage " ++ c.name
  | .unregisterStorage name => "unregister storage " ++ name

/-- The call that carries the mutation to a worker. Only a credential that breaks a rule is never sent. -/
def call : Mutation → Except ClusterError (Call Unit)
  | .load name => .ok (WorkerCall.load name)
  | .unload name => .ok (WorkerCall.unload name)
  | .registerStorage c => c.register.map WorkerCall.registerStorage
  | .unregisterStorage name => .ok (WorkerCall.unregisterStorage name)

/-- The kind of commands that the mutation consists of. -/
def kind : Mutation → String
  | .load _ => "load"
  | .unload _ => "unload"
  | .registerStorage _ => "register_storage"
  | .unregisterStorage _ => "unregister_storage"

end Mutation

namespace Operation

/-- The kind of commands that the operation consists of. -/
def kind : Operation → String
  | .mutation m => m.kind
  | .status _ => "status"
  | .storages => "storages"

/-- The operation is given to members. Only one with a credential that breaks a rule is not. -/
def isSent : Operation → Bool
  | .mutation m => m.call.isOk
  | .status _ => true
  | .storages => true

end Operation

namespace Roster

/-- Gives a mutation to all members. -/
def mutate (r : Roster) (net : Network) (limit : Nat) : Mutation → Network × Reply Unit
  | .load name => r.load net limit name
  | .unload name => r.unload net limit name
  | .registerStorage c => r.registerStorage net limit c
  | .unregisterStorage name => r.unregisterStorage net limit name

/-- The members that an outcome reports as failed. -/
def blamed {α : Type} : Except ClusterError α → List String
  | .error (.broadcast failures) => failures.map (·.node)
  | _ => []

theorem blamed_map {α β : Type} (f : α → β) (x : Except ClusterError α) : blamed (x.map f) = blamed x := by
  cases x with
  | ok a => rfl
  | error e => cases e <;> rfl

/-- Carries out an operation: the network afterwards, and the members that are reported as failed. In the answer to
the question for a data source these are the ones whose row has an error. -/
def operate (r : Roster) (net : Network) (limit : Nat) : Operation → Network × List String
  | .mutation m => let (net, reply) := r.mutate net limit m; (net, blamed reply.outcome)
  | .status name => let (net, _, rows) := r.status net limit name; (net, (rows.filter (·.error ≠ "")).map (·.node))
  | .storages => let (net, reply) := r.storages net limit; (net, blamed reply.outcome)

variable {net : Network} {limit : Nat} {m : Mutation}

/-- A mutation that can be sent is relayed to every member. -/
theorem mutate_eq_broadcast (r : Roster) {call : Call Unit} (h : m.call = .ok call) :
    r.mutate net limit m = r.broadcast net m.action fun n net => n.relay net limit call := by
  cases m with
  | load name =>
    obtain rfl := Except.ok.inj h
    show r.load net limit name = r.broadcast net ("load data source " ++ name) _
    unfold load Node.load
    rfl
  | unload name =>
    obtain rfl := Except.ok.inj h
    show r.unload net limit name = r.broadcast net ("unload data source " ++ name) _
    unfold unload Node.unload
    rfl
  | unregisterStorage name =>
    obtain rfl := Except.ok.inj h
    show r.unregisterStorage net limit name = r.broadcast net ("unregister storage " ++ name) _
    unfold unregisterStorage Node.unregisterStorage
    rfl
  | registerStorage c =>
    obtain ⟨registration, hc, rfl⟩ := map_eq_ok h
    show r.registerStorage net limit c = r.broadcast net ("register storage " ++ c.name) _
    -- Each node looks at the credential again, and finds the same registration.
    have hrelay : (fun (n : Node) (net : Network) => n.registerStorage net limit c) =
        fun n net => n.relay net limit (WorkerCall.registerStorage registration) := by
      funext n net
      unfold Node.registerStorage
      rw [hc]
      by_cases hr : n.isReady = true <;> simp [hr, Node.relay]
    unfold registerStorage
    rw [hc, hrelay]

/-- A credential that breaks a rule is refused before any member is asked. -/
theorem mutate_eq_refused (r : Roster) {e : ClusterError} (h : m.call = .error e) :
    r.mutate net limit m = (net, ⟨0, .error e⟩) := by
  cases m with
  | load name => cases h
  | unload name => cases h
  | unregisterStorage name => cases h
  | registerStorage c =>
    show r.registerStorage net limit c = _
    unfold registerStorage
    cases hc : c.register with
    | ok registration => rw [Mutation.call, hc] at h; cases h
    | error e' => rw [Mutation.call, hc] at h; cases h; rfl

end Roster

end Muster
