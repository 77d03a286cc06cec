import Muster.Node.Watch

/-! # What a node keeps

A node is made with a name, an address, a client and a policy, and keeps them whatever happens to it. Whether it is
checked changes only when its checks are started or stopped: nothing that the checks themselves do starts or stops
them. -/

namespace Muster

namespace Schedule

variable {ρ : Type} {s : Schedule ρ} {t : Nat} {e : Event ρ}

theorem earlier_eq_some {a b : Option (Nat × Event ρ)} {x : Nat × Event ρ} (h : earlier a b = some x) :
    a = some x ∨ b = some x := by
  unfold earlier at h
  split at h
  · split at h
    · exact Or.inl h
    · exact Or.inr h
  · exact Or.inl h
  · exact Or.inr h

/-- What happens next is the end of a check of a cancelled loop, or something in the loop that runs. -/
theorem next?_eq_some (h : s.next? = some (t, e)) :
    (∃ c ∈ s.ending, t = c.ends ∧ e = .ended c) ∨ ∃ p, s.running = some p ∧ Phase.next? p = some (t, e) := by
  obtain ⟨running, ending⟩ := s
  unfold next? at h
  induction ending with
  | nil => exact Or.inr (Option.bind_eq_some_iff.mp h)
  | cons c r ih =>
    rcases earlier_eq_some h with h | h
    · cases h
      exact Or.inl ⟨c, List.mem_cons_self, rfl, rfl⟩
    · rcases ih h with ⟨d, hd, h⟩ | h
      · exact Or.inl ⟨d, List.mem_cons_of_mem c hd, h⟩
      · exact Or.inr h

theorem isRunning_of_next? (h : s.next? = some (t, e)) (he : ∀ c, e ≠ .ended c) : s.isRunning = true := by
  rcases next?_eq_some h with ⟨c, -, -, rfl⟩ | ⟨p, hp, -⟩
  · exact absurd rfl (he c)
  · simp [isRunning, hp]

end Schedule

namespace Node

/-- What a node is made with: its name and address, its client and its policy. -/
def identity (n : Node) : String × String × Client × Policy := (n.name, n.url, n.client, n.policy)

@[simp] theorem identity_stop (n : Node) : n.stop.identity = n.identity := rfl

@[simp] theorem isRunning_stop (n : Node) : n.stop.isRunning = false := rfl
@[simp] theorem isRunning_start (n : Node) (now : Nat) : (n.start now).isRunning = true := by
  unfold isRunning start Schedule.start
  split <;> rfl

/-- Which node it is, and whether it is checked. -/
def core (n : Node) : (String × String × Client × Policy) × Bool := (n.identity, n.isRunning)

theorem eq_of_identity {a b : Node} (h : a.identity = b.identity) :
    a.name = b.name ∧ a.url = b.url ∧ a.client = b.client ∧ a.policy = b.policy := by
  simpa [identity] using h

theorem eq_of_core {a b : Node} (h : a.core = b.core) :
    a.name = b.name ∧ a.url = b.url ∧ a.client = b.client ∧ a.policy = b.policy ∧ a.isRunning = b.isRunning := by
  obtain ⟨hname, hurl, hclient, hpolicy⟩ := eq_of_identity (congrArg Prod.fst h)
  exact ⟨hname, hurl, hclient, hpolicy, congrArg Prod.snd h⟩

theorem identity_happen (n : Node) (net : Network) (clock : Clock) (e : Schedule.Event Pending) :
    (n.happen net clock e).2.2.identity = n.identity := by
  cases e <;> rfl

/-- An event of a node's own schedule neither starts nor stops its checks. -/
theorem isRunning_happen {n : Node} {due : Nat} {e : Schedule.Event Pending} (h : n.schedule.next? = some (due, e))
    (net : Network) (clock : Clock) : (n.happen net clock e).2.2.isRunning = n.isRunning := by
  have running (he : ∀ c, e ≠ .ended c) : n.isRunning = true := Schedule.isRunning_of_next? h he
  cases e with
  | restarted => exact (running fun c => by simp).symm
  | due => exact (running fun c => by simp).symm
  | checked c next => exact (running fun c => by simp).symm
  | ended c => rfl

theorem core_happen {n : Node} {due : Nat} {e : Schedule.Event Pending} (h : n.schedule.next? = some (due, e))
    (net : Network) (clock : Clock) : (n.happen net clock e).2.2.core = n.core :=
  Prod.ext (identity_happen n net clock e) (isRunning_happen h net clock)

theorem core_watchEvents (until_ fuel : Nat) (net : Network) (clock : Clock) (n : Node) :
    (watchEvents until_ fuel (net, clock, n)).2.2.core = n.core := by
  induction fuel generalizing net clock n with
  | zero => rfl
  | succ fuel ih =>
    unfold watchEvents
    split
    · rfl
    · rename_i t e hnext
      split
      · exact (ih _ _ _).trans (core_happen hnext net (clock.goTo t))
      · rfl

/-- However long a node is watched, it stays the same node, and is checked as it was before. -/
@[simp] theorem core_watch (n : Node) (net : Network) (clock : Clock) (until_ : Nat) :
    (n.watch net clock until_).2.2.core = n.core :=
  core_watchEvents until_ _ net clock n

end Node

end Muster
