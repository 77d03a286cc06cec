import Muster.Proofs.Node.Freshness

/-! # Checks under way

Whatever holds of every check when it begins holds of all that a node has under way, and of each that ends: checks are
begun by the node alone, and nothing happens to them until they end. -/

namespace Muster

namespace Schedule

variable {ρ : Type} {s : Schedule ρ} {c d : Check ρ} {t : Nat} {e : Event ρ}

/-- The checks under way, the one of the loop that runs last. -/
def inFlight (s : Schedule ρ) : List (Check ρ) := s.stop.ending

theorem mem_inFlight : c ∈ s.inFlight ↔ c ∈ s.ending ∨ ∃ next, s.running = some (.checking c next) := by
  obtain ⟨running, ending⟩ := s
  have hrunning : c ∈ (running.bind Phase.check?).toList ↔ ∃ next, running = some (.checking c next) := by
    rcases running with _ | ⟨_ | _ | ⟨d, next⟩ | _⟩ <;> simp [Phase.check?, eq_comm]
  exact List.mem_append.trans (or_congr_right hrunning)

theorem inFlight_stop (s : Schedule ρ) : s.stop.inFlight = s.inFlight := List.append_nil _

theorem inFlight_start (s : Schedule ρ) (now interval timeout : Nat) :
    (s.start now interval timeout).inFlight = s.inFlight := by
  obtain ⟨running, ending⟩ := s
  cases running with
  | none =>
    show ending ++ (Phase.check? (Phase.begin now interval)).toList = ending ++ []
    unfold Phase.begin
    split <;> rfl
  | some p => exact List.append_nil _

/-- A check that ends was under way. -/
theorem inFlight_of_next? (h : s.next? = some (t, e)) (he : e = .ended c ∨ ∃ next, e = .checked c next) :
    c ∈ s.inFlight := by
  refine mem_inFlight.mpr ?_
  rcases next?_eq_some h with ⟨d, hd, -, rfl⟩ | ⟨p, hp, hnext⟩
  · rcases he with he | ⟨next, he⟩
    · cases he
      exact Or.inl hd
    · cases he
  · rcases he with rfl | ⟨next, rfl⟩
    · cases p <;> cases hnext
    · cases p <;> cases hnext
      exact Or.inr ⟨next, hp⟩

theorem inFlight_restarted {now interval : Nat} (h : c ∈ (s.restarted now interval).inFlight) : c ∈ s.inFlight := by
  rcases mem_inFlight.mp h with hending | ⟨next, hrunning⟩
  · exact mem_inFlight.mpr (Or.inl hending)
  · have hbegin := Option.some.inj hrunning
    unfold Phase.begin at hbegin
    split at hbegin <;> cases hbegin

theorem inFlight_begin {interval : Nat} (h : c ∈ (s.begin interval d).inFlight) : c ∈ s.inFlight ∨ c = d := by
  rcases mem_inFlight.mp h with hending | ⟨next, hrunning⟩
  · exact Or.inl (mem_inFlight.mpr (Or.inl hending))
  · exact Or.inr (Phase.checking.inj (Option.some.inj hrunning)).1.symm

theorem inFlight_checked {next : Nat} (h : c ∈ (s.checked next).inFlight) : c ∈ s.inFlight := by
  rcases mem_inFlight.mp h with hending | ⟨next, hrunning⟩
  · exact mem_inFlight.mpr (Or.inl hending)
  · cases hrunning

theorem inFlight_ended (h : c ∈ (s.ended d).inFlight) : c ∈ s.inFlight := by
  rcases mem_inFlight.mp h with hending | hrunning
  · exact mem_inFlight.mpr (Or.inl (List.eraseP_sublist.subset hending))
  · exact mem_inFlight.mpr (Or.inr hrunning)

end Schedule

namespace Node

variable {n : Node} {net : Network} {clock : Clock} {t : Nat} {e : Schedule.Event Pending} {P : Pending → Prop}

/-- The checks that a node has under way are all of a kind. -/
def Checking (P : Pending → Prop) (n : Node) : Prop := ∀ c ∈ n.schedule.inFlight, P c.result

/-- The check that ends. -/
def Happening.ending? (h : Happening) : Option (Check Pending) :=
  match h.event with
  | .checked c _ => some c
  | .ended c => some c
  | _ => none

theorem Happening.finding?_eq (x : Happening) : x.finding? = x.ending?.map fun c =>
    ⟨c, x.clock.moment, x.node.outcome (c.result.land x.net WorkerCall.ping).2⟩ := by
  obtain ⟨net, clock, n, e⟩ := x
  cases e <;> rfl

/-- What is known of a node once a check has ended is what came of the check. -/
theorem Happening.health_outcome {x : Happening} {c : Check Pending} (h : x.ending? = some c) :
    x.outcome.2.2.health =
      x.node.health.record x.clock.moment (x.node.outcome (c.result.land x.net WorkerCall.ping).2) := by
  obtain ⟨net, clock, n, e⟩ := x
  cases e with
  | restarted => cases h
  | due => cases h
  | _ =>
    obtain rfl := Option.some.inj h
    rfl

theorem Checking.of_made {name url version : String} {policy : Policy} {moment : Nat}
    (h : make name url version policy moment = .ok n) : n.Checking P := by
  unfold make at h
  split at h
  · cases h
  · obtain rfl := Except.ok.inj h
    exact fun c hc => (by cases hc)

theorem Checking.stop (h : n.Checking P) : n.stop.Checking P :=
  fun c hc => h c (n.schedule.inFlight_stop ▸ hc)

theorem Checking.start (h : n.Checking P) (now : Nat) : (n.start now).Checking P :=
  fun c hc => h c (by rwa [Node.start, Schedule.inFlight_start] at hc)

theorem Checking.ending (h : n.Checking P) (hnext : n.schedule.next? = some (t, e)) {c : Check Pending}
    (hc : Happening.ending? ⟨net, clock, n, e⟩ = some c) : P c.result := by
  cases e with
  | restarted => cases hc
  | due => cases hc
  | checked d next =>
    obtain rfl := Option.some.inj hc
    exact h d (Schedule.inFlight_of_next? hnext (.inr ⟨next, rfl⟩))
  | ended d =>
    obtain rfl := Option.some.inj hc
    exact h d (Schedule.inFlight_of_next? hnext (.inl rfl))

section
variable (hbegun : ∀ (client : Client) (net : Network) (within : Nat), P (client.launch net within WorkerCall.ping).2.2)
include hbegun

/-- What happens at a node adds no other check than one that begins. -/
theorem Checking.happen (h : n.Checking P) (e : Schedule.Event Pending) (net : Network) (clock : Clock) :
    (n.happen net clock e).2.2.Checking P := by
  cases e with
  | restarted => exact fun c hc => h c (Schedule.inFlight_restarted hc)
  | due =>
    intro c hc
    rcases Schedule.inFlight_begin hc with hold | rfl
    · exact h c hold
    · exact hbegun n.client net n.policy.timeout.nanos
  | checked d next => exact fun c hc => h c (Schedule.inFlight_checked hc)
  | ended d => exact fun c hc => h c (Schedule.inFlight_ended hc)

theorem Checking.watchEvents (h : n.Checking P) (until_ fuel : Nat) (net : Network) (clock : Clock) :
    (watchEvents until_ fuel (net, clock, n)).2.2.Checking P ∧
      ∀ x ∈ firstHappenings until_ fuel (net, clock, n), ∀ c, x.ending? = some c → P c.result := by
  induction fuel generalizing net clock n with
  | zero => exact ⟨h, fun x hx => (by cases hx)⟩
  | succ fuel ih =>
    unfold Node.watchEvents firstHappenings
    cases hnext : n.schedule.next? with
    | none => exact ⟨h, fun x hx => (by cases hx)⟩
    | some x =>
      obtain ⟨t, e⟩ := x
      by_cases hdue : t ≤ until_
      · simp only [if_pos hdue]
        obtain ⟨hlater, hended⟩ := ih (h.happen hbegun e net (clock.goTo t)) (n.happen net (clock.goTo t) e).1
          (n.happen net (clock.goTo t) e).2.1
        exact ⟨hlater, List.forall_mem_cons.mpr ⟨fun c hc => h.ending hnext hc, hended⟩⟩
      · simp only [if_neg hdue]
        exact ⟨h, fun x hx => (by cases hx)⟩

/-- While a node is watched, the checks that it has under way stay of their kind, and those that end are of it. -/
theorem Checking.watch (h : n.Checking P) (net : Network) (clock : Clock) (until_ : Nat) :
    (n.watch net clock until_).2.2.Checking P ∧
      ∀ x ∈ n.happenings net clock until_, ∀ c, x.ending? = some c → P c.result :=
  h.watchEvents hbegun until_ _ net clock

end

end Node

end Muster
