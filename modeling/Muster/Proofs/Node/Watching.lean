import Muster.Proofs.Node.Identity
import Muster.Proofs.Node.Loops

/-! # What happens as a node is watched

The events of a node's schedule that are due up to a time, each with what it finds (`Node.happenings`). All of them
happen, in the order of their times, and nothing that is due is left (`watched_watch`). On their way the loops of the
node do nothing that loops could not do in any case: watching a node, starting it and stopping it are runs of its
loops. -/

namespace Muster

open Schedule

/-! ### What comes first -/

namespace Schedule

variable {ρ : Type} {s : Schedule ρ} {t u : Nat} {e x : Event ρ} {a b : Option (Nat × Event ρ)} {c : Check ρ} {p : Phase ρ}

theorem earlier_left (b : Option (Nat × Event ρ)) : ∃ t e, earlier (some (u, x)) b = some (t, e) ∧ t ≤ u := by
  unfold earlier
  split
  · rename_i heq
    cases heq
    split
    · exact ⟨_, _, rfl, Nat.le_refl _⟩
    · exact ⟨_, _, rfl, by omega⟩
  · rename_i heq
    cases heq
    exact ⟨_, _, rfl, Nat.le_refl _⟩
  · contradiction

theorem earlier_right (a : Option (Nat × Event ρ)) (h : ∃ t e, b = some (t, e) ∧ t ≤ u) :
    ∃ t e, earlier a b = some (t, e) ∧ t ≤ u := by
  obtain ⟨t, e, rfl, hle⟩ := h
  cases a with
  | none => exact ⟨t, e, rfl, hle⟩
  | some a =>
    unfold earlier
    simp only
    split
    · exact ⟨_, _, rfl, by omega⟩
    · exact ⟨t, e, rfl, hle⟩

/-- Something comes no later than the end of a check that a cancelled loop has under way. -/
theorem next?_le_ends (hc : c ∈ s.ending) : ∃ t e, s.next? = some (t, e) ∧ t ≤ c.ends := by
  obtain ⟨running, ending⟩ := s
  unfold next?
  simp only at hc ⊢
  induction ending with
  | nil => cases hc
  | cons d r ih =>
    rcases List.mem_cons.mp hc with rfl | hc
    · exact earlier_left _
    · exact earlier_right _ (ih hc)

/-- Something comes no later than what is next in the loop that runs. -/
theorem next?_le_next (hp : s.running = some p) (h : Phase.next? p = some (u, x)) :
    ∃ t e, s.next? = some (t, e) ∧ t ≤ u := by
  obtain ⟨running, ending⟩ := s
  subst hp
  unfold next?
  simp only
  induction ending with
  | nil => exact ⟨u, x, h, Nat.le_refl _⟩
  | cons d r ih => exact earlier_right _ ih

/-- Of the checks of cancelled loops that end first the first is removed, and it alone. -/
theorem ended_of_next? (h : s.next? = some (t, .ended c)) :
    ∃ a b, s.ending = a ++ c :: b ∧ s.ended c = ⟨s.running, a ++ b⟩ := by
  suffices first : ∃ a b, s.ending = a ++ c :: b ∧ ∀ d ∈ a, ¬ d.ends = c.ends by
    obtain ⟨a, b, hall, hfirst⟩ := first
    refine ⟨a, b, hall, ?_⟩
    unfold ended
    rw [hall, List.eraseP_append_right _ (fun d hd => by simpa using hfirst d hd), List.eraseP_cons_of_pos (by simp)]
  obtain ⟨running, ending⟩ := s
  have running_ends : ∀ t d, running.bind Phase.next? ≠ some (t, .ended d) := by
    intro t d hd
    obtain ⟨p, -, hp⟩ := Option.bind_eq_some_iff.mp hd
    cases p <;> cases hp
  suffices first : ∀ t, Schedule.next? ⟨running, ending⟩ = some (t, .ended c) →
      t = c.ends ∧ ∃ a b, ending = a ++ c :: b ∧ ∀ d ∈ a, t < d.ends by
    obtain ⟨rfl, a, b, hall, hlater⟩ := first t h
    exact ⟨a, b, hall, fun d hd => Nat.ne_of_gt (hlater d hd)⟩
  clear h
  induction ending with
  | nil => exact fun t h => absurd h (running_ends t c)
  | cons d r ih =>
    intro t h
    have hfold : Schedule.next? ⟨running, d :: r⟩ = earlier (some (d.ends, .ended d)) (Schedule.next? ⟨running, r⟩) := rfl
    rw [hfold] at h
    unfold earlier at h
    split at h
    · split at h
      · rename_i heq _ _
        cases heq
        cases h
        exact ⟨rfl, [], r, rfl, fun d hd => by cases hd⟩
      · rename_i heq hrest hlt
        cases heq
        obtain ⟨hends, a, b, rfl, hlater⟩ := ih t (hrest.trans h)
        refine ⟨hends, d :: a, b, rfl, fun x hx => ?_⟩
        rcases List.mem_cons.mp hx with rfl | hx
        · cases h
          omega
        · exact hlater x hx
    · rename_i heq _
      cases heq
      cases h
      exact ⟨rfl, [], r, rfl, fun d hd => by cases hd⟩
    · contradiction

/-! ### Schedules as loops -/

/-- The loops of a schedule: those that were cancelled have a check under way, as the others do nothing any more. -/
def loops (s : Schedule ρ) (interval : Nat) : Loops ρ :=
  ⟨s.running, s.ending.map fun c => .checking c (c.started + interval)⟩

/-- The next check of the loop that runs is due an interval after the beginning of the one under way. -/
def Regular (s : Schedule ρ) (interval : Nat) : Prop :=
  ∀ c next, s.running = some (.checking c next) → next = c.started + interval

theorem regular_checking (ending : List (Check ρ)) (c : Check ρ) (interval : Nat) :
    Schedule.Regular ⟨some (.checking c (c.started + interval)), ending⟩ interval := by
  intro d next hd
  obtain ⟨rfl, rfl⟩ := Phase.checking.inj (Option.some.inj hd)
  rfl

theorem regular_phase {interval now : Nat} (ending : List (Check ρ)) :
    Schedule.Regular ⟨some (Phase.begin now interval), ending⟩ interval := by
  intro c next h
  unfold Phase.begin at h
  split at h <;> cases h

theorem regular_stop (s : Schedule ρ) (interval : Nat) : s.stop.Regular interval := by
  intro c next h
  cases h

theorem regular_start (s : Schedule ρ) (now interval timeout : Nat) :
    (s.start now interval timeout).Regular interval := by
  unfold start
  split
  · exact regular_phase s.ending
  · intro c next h
    cases h

end Schedule

namespace Loops

variable {ρ : Type} {interval timeout now : Nat}

/-- A loop that was cancelled goes unless it has a check under way. -/
theorem run_cancelled (s : Schedule ρ) (hs : s.Regular interval) (current : Option (Phase ρ)) :
    Run interval timeout (now, ⟨current, (s.loops interval).all⟩) [] (now, ⟨current, (s.stop.loops interval).cancelled⟩) := by
  obtain ⟨running, ending⟩ := s
  cases running with
  | none =>
    simp only [Schedule.loops, all, Schedule.stop, Option.toList_none, List.append_nil, Option.bind_none]
    exact Run.refl _
  | some p =>
    cases hp : Phase.check? p with
    | none =>
      have hquit := @Step.quit ρ interval timeout now current p
        (ending.map fun c => .checking c (c.started + interval)) [] hp
      simpa [Schedule.loops, all, Schedule.stop, hp] using Run.one hquit
    | some c =>
      cases p with
      | checking d next =>
        obtain rfl := hs d next rfl
        simp only [Schedule.loops, all, Schedule.stop, Schedule.Phase.check?, Option.bind_some, Option.toList_some,
          List.map_append, List.map_cons, List.map_nil]
        exact Run.refl _
      | _ => cases hp

theorem run_stop (s : Schedule ρ) (hs : s.Regular interval) :
    Run interval timeout (now, s.loops interval) [.stopped] (now, s.stop.loops interval) :=
  (Run.one (.stop now (s.loops interval))).trans (run_cancelled s hs none)

theorem run_start (s : Schedule ρ) (hs : s.Regular interval) :
    Run interval timeout (now, s.loops interval) [.started now (s.loops interval)]
      (now, (s.start now interval timeout).loops interval) := by
  have hstart : Run interval timeout (now, s.loops interval) [.started now (s.loops interval)]
      (now, (s.loops interval).start now interval timeout) := Run.one (.start now (s.loops interval))
  have hrest : Run interval timeout (now, (s.loops interval).start now interval timeout) []
      (now, ⟨some ((s.loops interval).opening now interval timeout), (s.stop.loops interval).cancelled⟩) :=
    run_cancelled s hs (some ((s.loops interval).opening now interval timeout))
  obtain ⟨running, ending⟩ := s
  cases running with
  | none =>
    simp only [Schedule.stop, Option.bind_none, Option.toList_none, List.append_nil] at hrest
    exact hstart.trans hrest
  | some p => exact hstart.trans hrest

end Loops

namespace Node

/-- An event of a node's schedule as it happens: the network and the clock that it finds, and the node. -/
structure Happening where
  net : Network
  clock : Clock
  node : Node
  event : Schedule.Event Pending

namespace Happening

/-- The check that a node begins. -/
def check (h : Happening) : Check Pending :=
  let x := h.node.client.launch h.net h.node.policy.timeout.nanos WorkerCall.ping
  ⟨h.clock.now, h.clock.now + x.2.1, x.2.2⟩

/-- What others notice of the loops. -/
def deed? (h : Happening) : Option (Deed Pending) :=
  match h.event with
  | .restarted => none
  | .due => some (.began h.check)
  | .checked c _ => some (.ended c)
  | .ended c => some (.ended c)

theorem startFree (hs : List Happening) : Loops.StartFree (hs.filterMap deed?) := by
  intro now l hl
  obtain ⟨h, -, hh⟩ := List.mem_filterMap.mp hl
  unfold deed? at hh
  split at hh <;> cases hh

def outcome (h : Happening) : Network × Clock × Node := h.node.happen h.net h.clock h.event

end Happening

/-- The first `fuel` events of a node's schedule that are due up to the time `until_`. -/
def firstHappenings (until_ : Nat) : Nat → Network × Clock × Node → List Happening
  | 0, _ => []
  | fuel + 1, (net, clock, n) =>
    match n.schedule.next? with
    | none => []
    | some (t, e) =>
      if t ≤ until_ then
        let h : Happening := ⟨net, clock.goTo t, n, e⟩
        h :: firstHappenings until_ fuel h.outcome
      else []

/-- What happens at a node that is watched up to the time `until_`. -/
def happenings (n : Node) (net : Network) (clock : Clock) (until_ : Nat) : List Happening :=
  firstHappenings until_ (n.eventBound (until_ - clock.now)) (net, clock, n)

/-- All that is due up to a time happens, one event after another. -/
inductive Watched (until_ : Nat) : Network × Clock × Node → List Happening → Network × Clock × Node → Prop
  | done {net : Network} {clock : Clock} {n : Node} (h : ∀ t e, n.schedule.next? = some (t, e) → until_ < t) :
      Watched until_ (net, clock, n) [] (net, clock, n)
  | next {net : Network} {clock : Clock} {n : Node} {t : Nat} {e : Schedule.Event Pending} {hs : List Happening}
      {s : Network × Clock × Node} (h : n.schedule.next? = some (t, e)) (hdue : t ≤ until_)
      (rest : Watched until_ (n.happen net (clock.goTo t) e) hs s) :
      Watched until_ (net, clock, n) (⟨net, clock.goTo t, n, e⟩ :: hs) s

variable {until_ : Nat} {net : Network} {clock : Clock} {n : Node} {t : Nat} {e : Schedule.Event Pending}

theorem now_happen (n : Node) (net : Network) (clock : Clock) (e : Schedule.Event Pending) :
    (n.happen net clock e).2.1.now = clock.now := by
  cases e <;> rfl

theorem Watched.now_le {hs : List Happening} {s s' : Network × Clock × Node} (h : Watched until_ s hs s')
    (hnow : s.2.1.now ≤ until_) : s'.2.1.now ≤ until_ := by
  induction h with
  | done h => exact hnow
  | next h hdue rest ih => exact ih (Nat.le_trans (Nat.le_of_eq (now_happen ..)) (Nat.max_le.mpr ⟨hnow, hdue⟩))

theorem Watched.later {hs : List Happening} {s s' : Network × Clock × Node} (h : Watched until_ s hs s') :
    ∀ t e, s'.2.2.schedule.next? = some (t, e) → until_ < t := by
  induction h with
  | done h => exact h
  | next h hdue rest ih => exact ih

/-! ### Nothing that is due is left -/

/-- How many events of checks may be due from a time on: a beginning and an end for each interval. -/
def eventsFrom (until_ interval time : Nat) : Nat := 2 * ((until_ + interval - time) / interval)

/-- How many events may be due in the loop that runs. -/
def eventsLeft (until_ interval now : Nat) : Option (Phase Pending) → Nat
  | some (.restarting t) => 1 + eventsFrom until_ interval (max t now + interval)
  | some (.waiting due) => eventsFrom until_ interval (max due now)
  | some (.checking _ next) => 1 + eventsFrom until_ interval (max next now)
  | some .idle => 0
  | none => 0

theorem eventsFrom_anti {interval a b : Nat} (h : a ≤ b) : eventsFrom until_ interval b ≤ eventsFrom until_ interval a :=
  Nat.mul_le_mul_left 2 (Nat.div_le_div_right (by omega))

theorem eventsFrom_add {interval a : Nat} (hinterval : 0 < interval) (h : a ≤ until_) :
    eventsFrom until_ interval (a + interval) + 2 = eventsFrom until_ interval a := by
  unfold eventsFrom
  rw [show until_ + interval - (a + interval) = until_ - a by omega,
    show until_ + interval - a = until_ - a + interval by omega, Nat.add_div_right _ hinterval]
  omega

theorem eventsLeft_anti {interval now now' : Nat} (h : now ≤ now') (running : Option (Phase Pending)) :
    eventsLeft until_ interval now' running ≤ eventsLeft until_ interval now running := by
  cases running with
  | none => exact Nat.le_refl _
  | some p =>
    cases p with
    | restarting t => exact Nat.add_le_add_left (eventsFrom_anti (by omega)) 1
    | waiting due => exact eventsFrom_anti (by omega)
    | checking c next => exact Nat.add_le_add_left (eventsFrom_anti (by omega)) 1
    | idle => exact Nat.le_refl _

theorem eventsLeft_le {interval now : Nat} (running : Option (Phase Pending)) :
    eventsLeft until_ interval now running ≤ 1 + eventsFrom until_ interval now := by
  cases running with
  | none => exact Nat.zero_le _
  | some p =>
    cases p with
    | restarting t => exact Nat.add_le_add_left (eventsFrom_anti (by omega)) 1
    | waiting due => exact Nat.le_add_left_of_le (eventsFrom_anti (by omega))
    | checking c next => exact Nat.add_le_add_left (eventsFrom_anti (by omega)) 1
    | idle => exact Nat.zero_le _

/-- How many events may be due at a node. -/
def mayHappen (n : Node) (until_ now : Nat) : Nat :=
  n.schedule.ending.length + eventsLeft until_ n.policy.interval.nanos now n.schedule.running

theorem mayHappen_le_eventBound (hinterval : 0 < n.policy.interval.nanos) {now : Nat} (hnow : now ≤ until_) :
    n.mayHappen until_ now ≤ n.eventBound (until_ - now) := by
  have hall : eventsFrom until_ n.policy.interval.nanos now = 2 * ((until_ - now) / n.policy.interval.nanos + 1) := by
    unfold eventsFrom
    rw [show until_ + n.policy.interval.nanos - now = until_ - now + n.policy.interval.nanos by omega,
      Nat.add_div_right _ hinterval]
  have hleft : eventsLeft until_ n.policy.interval.nanos now n.schedule.running ≤
      1 + eventsFrom until_ n.policy.interval.nanos now := eventsLeft_le n.schedule.running
  unfold mayHappen eventBound
  omega

/-- What is next in the loop that runs leaves fewer events in it. -/
theorem eventsLeft_next {p : Phase Pending} (net : Network) (hinterval : 0 < n.policy.interval.nanos)
    (hp : n.schedule.running = some p) (h : Phase.next? p = some (t, e)) (hdue : t ≤ until_) (hnow : clock.now ≤ until_) :
    ∃ p', (n.happen net (clock.goTo t) e).2.2.schedule = { n.schedule with running := some p' } ∧
      eventsLeft until_ n.policy.interval.nanos (max clock.now t) (some p') <
        eventsLeft until_ n.policy.interval.nanos clock.now (some p) := by
  have hanti (a b : Nat) (hle : a ≤ b) : eventsFrom until_ n.policy.interval.nanos b ≤
      eventsFrom until_ n.policy.interval.nanos a := eventsFrom_anti hle
  cases p with
  | restarting t =>
    cases h
    refine ⟨.waiting (max clock.now t + n.policy.interval.nanos), ?_, ?_⟩
    · show Schedule.restarted _ _ _ = _
      rw [Schedule.restarted, Loops.begin_of_pos hinterval]
      rfl
    · have hless := hanti (max t clock.now + n.policy.interval.nanos)
        (max (max clock.now t + n.policy.interval.nanos) (max clock.now t)) (by omega)
      simp only [eventsLeft]
      omega
  | waiting t =>
    cases h
    refine ⟨.checking _ (max clock.now t + n.policy.interval.nanos), rfl, ?_⟩
    have hless := hanti (max t clock.now + n.policy.interval.nanos)
      (max (max clock.now t + n.policy.interval.nanos) (max clock.now t)) (by omega)
    have hadd : eventsFrom until_ n.policy.interval.nanos (max t clock.now + n.policy.interval.nanos) + 2 =
        eventsFrom until_ n.policy.interval.nanos (max t clock.now) := eventsFrom_add hinterval (by omega)
    simp only [eventsLeft]
    omega
  | checking c next =>
    cases h
    refine ⟨.waiting next, rfl, ?_⟩
    have hless := hanti (max next clock.now) (max next (max clock.now c.ends)) (by omega)
    simp only [eventsLeft]
    omega
  | idle => cases h

/-- Each event that is due leaves fewer. -/
theorem mayHappen_happen (net : Network) (hinterval : 0 < n.policy.interval.nanos)
    (h : n.schedule.next? = some (t, e)) (hdue : t ≤ until_) (hnow : clock.now ≤ until_) :
    (n.happen net (clock.goTo t) e).2.2.mayHappen until_ (max clock.now t) < n.mayHappen until_ clock.now := by
  have hpolicy : (n.happen net (clock.goTo t) e).2.2.policy = n.policy :=
    (eq_of_identity (identity_happen n net (clock.goTo t) e)).2.2.2
  unfold mayHappen
  rw [hpolicy]
  rcases Schedule.next?_eq_some h with ⟨c, hc, rfl, rfl⟩ | ⟨p, hp, hnext⟩
  · obtain ⟨a, b, hall, hended⟩ := Schedule.ended_of_next? h
    have hschedule : (n.happen net (clock.goTo c.ends) (.ended c)).2.2.schedule = ⟨n.schedule.running, a ++ b⟩ :=
      hended
    have hanti : eventsLeft until_ n.policy.interval.nanos (max clock.now c.ends) n.schedule.running ≤
        eventsLeft until_ n.policy.interval.nanos clock.now n.schedule.running :=
      eventsLeft_anti (Nat.le_max_left clock.now c.ends) n.schedule.running
    rw [hschedule, hall]
    simp only [List.length_append, List.length_cons]
    omega
  · obtain ⟨p', hp', hless⟩ := eventsLeft_next net hinterval hp hnext hdue hnow
    rw [hp', hp]
    exact Nat.add_lt_add_left hless _

/-- As many events are enough as may be due. -/
theorem watched_events (until_ fuel : Nat) (net : Network) (clock : Clock) (n : Node)
    (hinterval : 0 < n.policy.interval.nanos) (hnow : clock.now ≤ until_) (hfuel : n.mayHappen until_ clock.now ≤ fuel) :
    Watched until_ (net, clock, n) (firstHappenings until_ fuel (net, clock, n))
      (watchEvents until_ fuel (net, clock, n)) := by
  induction fuel generalizing net clock n with
  | zero =>
    refine .done fun t e h => Nat.lt_of_not_le fun hdue => ?_
    have hless := mayHappen_happen net hinterval h hdue hnow
    omega
  | succ fuel ih =>
    unfold firstHappenings watchEvents
    cases hnext : n.schedule.next? with
    | none => exact .done fun t e h => by rw [hnext] at h; cases h
    | some x =>
      obtain ⟨t, e⟩ := x
      by_cases hdue : t ≤ until_
      · simp only [if_pos hdue]
        have hless := mayHappen_happen net hinterval hnext hdue hnow
        have hpolicy := (eq_of_identity (identity_happen n net (clock.goTo t) e)).2.2.2
        have htime : (n.happen net (clock.goTo t) e).2.1.now = max clock.now t := now_happen n net (clock.goTo t) e
        have hrest := ih (n.happen net (clock.goTo t) e).1 (n.happen net (clock.goTo t) e).2.1
          (n.happen net (clock.goTo t) e).2.2
        rw [hpolicy, htime] at hrest
        exact .next hnext hdue (hrest hinterval (by omega) (by omega))
      · simp only [if_neg hdue]
        refine .done fun t' e' h => ?_
        rw [hnext] at h
        cases h
        exact Nat.lt_of_not_le hdue

/-- Nothing that is due when the time is over is left. -/
theorem watched_watch (hinterval : 0 < n.policy.interval.nanos) (net : Network) (hnow : clock.now ≤ until_) :
    Watched until_ (net, clock, n) (n.happenings net clock until_) (n.watch net clock until_) :=
  watched_events until_ _ net clock n hinterval hnow (mayHappen_le_eventBound hinterval hnow)

/-! ### Watching as a run of loops -/

def loops (n : Node) : Loops Pending := n.schedule.loops n.policy.interval.nanos

/-- The next check of a node is due an interval after the beginning of the one under way. -/
def Regular (n : Node) : Prop := n.schedule.Regular n.policy.interval.nanos

/-- Nobody waits longer for a call than it is worth to them. -/
theorem after_launch_le {α : Type} (c : Client) (net : Network) (within : Nat) (call : Call α) :
    (c.launch net within call).2.1 ≤ within := by
  unfold Client.launch
  split
  · exact Nat.zero_le _
  · rename_i o _
    show (net.launch within o).2.1 ≤ within
    unfold Network.launch
    simp only
    split
    · exact Nat.le_of_lt ‹_›
    · exact Nat.le_refl _

theorem run_wait (n : Node) {now later : Nat} (hlater : now ≤ later)
    (h : ∀ t e, n.schedule.next? = some (t, e) → later ≤ t) :
    Loops.Run n.policy.interval.nanos n.policy.timeout.nanos (now, n.loops) [] (later, n.loops) := by
  refine Loops.Run.one (d := none) (.wait hlater (fun p hp => ?_) fun p hp u e he => ?_)
  · obtain ⟨c, -, rfl⟩ := List.mem_map.mp hp
    exact fun hnone => by cases hnone
  · rcases List.mem_append.mp hp with hp | hp
    · obtain ⟨c, hc, rfl⟩ := List.mem_map.mp hp
      cases he
      obtain ⟨t, e, hnext, hle⟩ := Schedule.next?_le_ends hc
      exact Nat.le_trans (h t e hnext) hle
    · obtain ⟨t, e, hnext, hle⟩ := Schedule.next?_le_next (Option.mem_toList.mp hp) he
      exact Nat.le_trans (h t e hnext) hle

/-- What happens next at a node its loops do. -/
theorem run_happen (hregular : n.Regular) (h : n.schedule.next? = some (t, e)) (net : Network) (hdue : t ≤ clock.now) :
    Loops.Run n.policy.interval.nanos n.policy.timeout.nanos (clock.now, n.loops)
        (Happening.deed? ⟨net, clock, n, e⟩).toList (clock.now, (n.happen net clock e).2.2.loops) ∧
      (n.happen net clock e).2.2.Regular := by
  have loops_eq (running : Option (Phase Pending)) (ending : List (Check Pending)) :
      Schedule.loops ⟨running, ending⟩ n.policy.interval.nanos =
        ⟨running, ending.map fun c => .checking c (c.started + n.policy.interval.nanos)⟩ := rfl
  rcases Schedule.next?_eq_some h with ⟨c, hc, rfl, rfl⟩ | ⟨p, hp, hnext⟩
  · -- The loop of a check that ends was cancelled, and goes.
    obtain ⟨a, b, hall, hended⟩ := Schedule.ended_of_next? h
    have hbefore : n.loops = Schedule.loops ⟨n.schedule.running, a ++ c :: b⟩ n.policy.interval.nanos := by
      rw [← hall]
      rfl
    have hafter : (n.happen net clock (.ended c)).2.2.loops =
        Schedule.loops ⟨n.schedule.running, a ++ b⟩ n.policy.interval.nanos :=
      congrArg (Schedule.loops · n.policy.interval.nanos) hended
    refine ⟨?_, fun d next hd => hregular d next ?_⟩
    · rw [hbefore, hafter, loops_eq, loops_eq, List.map_append, List.map_append, List.map_cons]
      exact (Loops.Run.one (.linger (.checked hdue))).trans (Loops.Run.one (.quit rfl))
    · have hd : (n.schedule.ended c).running = some (.checking d next) := hd
      rwa [hended] at hd
  · have hbefore : n.loops = Schedule.loops ⟨some p, n.schedule.ending⟩ n.policy.interval.nanos := by
      rw [← hp]
      rfl
    rw [hbefore]
    cases p with
    | restarting t =>
      cases hnext
      exact ⟨Loops.Run.one (.go (.restarted hdue)), Schedule.regular_phase n.schedule.ending⟩
    | waiting t =>
      cases hnext
      have hafter : (n.happen net clock .due).2.2.loops = Schedule.loops
          ⟨some (.checking (Happening.check ⟨net, clock, n, .due⟩) (clock.now + n.policy.interval.nanos)),
            n.schedule.ending⟩ n.policy.interval.nanos := rfl
      refine ⟨?_, Schedule.regular_checking _ _ _⟩
      · rw [hafter]
        exact Loops.Run.one (.go (.due hdue rfl (Nat.le_add_right _ _)
          (Nat.add_le_add_left (after_launch_le n.client net n.policy.timeout.nanos WorkerCall.ping) _)
          (Nat.add_le_add_right hdue _) (Nat.le_refl _)))
    | checking c next =>
      cases hnext
      refine ⟨Loops.Run.one (.go (.checked hdue)), fun d next hd => ?_⟩
      cases hd
    | idle => cases hnext

/-- What happens at a node that is watched its loops do. -/
theorem Watched.run {hs : List Happening} {s s' : Network × Clock × Node} (h : Watched until_ s hs s')
    (hregular : s.2.2.Regular) :
    Loops.Run s.2.2.policy.interval.nanos s.2.2.policy.timeout.nanos (s.2.1.now, s.2.2.loops)
        (hs.filterMap Happening.deed?) (s'.2.1.now, s'.2.2.loops) ∧
      s'.2.2.Regular ∧ s'.2.2.identity = s.2.2.identity := by
  induction h with
  | done h => exact ⟨.refl _, hregular, rfl⟩
  | @next net clock n t e hs s h hdue rest ih =>
    have hwait : Loops.Run n.policy.interval.nanos n.policy.timeout.nanos (clock.now, n.loops) []
        ((clock.goTo t).now, n.loops) := by
      rcases Nat.le_total clock.now t with hle | hle
      · refine n.run_wait (Nat.le_max_left clock.now t) fun t' e' h' => ?_
        rw [h] at h'
        cases h'
        exact Nat.max_le.mpr ⟨hle, Nat.le_refl t⟩
      · rw [show (clock.goTo t).now = clock.now from Nat.max_eq_left hle]
        exact .refl _
    obtain ⟨hone, hregular'⟩ := run_happen hregular h net (show t ≤ (clock.goTo t).now from Nat.le_max_right _ _)
    have hidentity := identity_happen n net (clock.goTo t) e
    obtain ⟨hrest, hregular', hsame⟩ := ih hregular'
    rw [(eq_of_identity hidentity).2.2.2, now_happen] at hrest
    refine ⟨?_, hregular', hsame.trans hidentity⟩
    have hall := (hwait.trans hone).trans hrest
    rw [List.nil_append] at hall
    cases hdeed : Happening.deed? ⟨net, clock.goTo t, n, e⟩ with
    | none =>
      rw [hdeed] at hall
      rw [List.filterMap_cons_none hdeed]
      exact hall
    | some d =>
      rw [hdeed] at hall
      rw [List.filterMap_cons_some hdeed]
      exact hall

/-- A node that is watched up to a time does with its loops what loops can do up to then. -/
theorem run_watch (hinterval : 0 < n.policy.interval.nanos) (hregular : n.Regular) (net : Network)
    (hnow : clock.now ≤ until_) :
    Loops.Run n.policy.interval.nanos n.policy.timeout.nanos (clock.now, n.loops)
        ((n.happenings net clock until_).filterMap Happening.deed?) (until_, (n.watch net clock until_).2.2.loops) ∧
      (n.watch net clock until_).2.2.Regular := by
  have hwatched := watched_watch hinterval net hnow
  obtain ⟨hrun, hregular', hidentity⟩ := hwatched.run hregular
  have hrest := (n.watch net clock until_).2.2.run_wait (hwatched.now_le hnow)
    fun t e h => Nat.le_of_lt (hwatched.later t e h)
  rw [(eq_of_identity hidentity).2.2.2] at hrest
  have hall := hrun.trans hrest
  rw [List.append_nil] at hall
  exact ⟨hall, hregular'⟩

/-! ### The life of a node -/

/-- What can be done with a node. -/
inductive Act
  | start
  | stop
  /-- Time goes by, and checks are sent and answered as they are due. -/
  | pass (span : Nat)
  /-- The network becomes another one. -/
  | rewire (net : Network)

/-- A node after something was done with it, in its network and on its clock. -/
def act : Network × Clock × Node → Act → Network × Clock × Node
  | (net, clock, n), .start => (net, clock, n.start clock.now)
  | (net, clock, n), .stop => (net, clock, n.stop)
  | (net, clock, n), .pass span =>
    let (net, after, n) := n.watch net clock (clock.now + span)
    (net, after.goTo (clock.now + span), n)
  | (_, clock, n), .rewire net => (net, clock, n)

/-- What others notice of a node's loops as something is done with it. -/
def deedsOf : Network × Clock × Node → Act → List (Deed Pending)
  | (_, clock, n), .start => [.started clock.now n.loops]
  | _, .stop => [.stopped]
  | (net, clock, n), .pass span => (n.happenings net clock (clock.now + span)).filterMap Happening.deed?
  | _, .rewire _ => []

def live (s : Network × Clock × Node) (acts : List Act) : Network × Clock × Node := acts.foldl act s

/-- What others notice of a node's loops during some acts. -/
def deeds (s : Network × Clock × Node) : List Act → List (Deed Pending)
  | [] => []
  | a :: acts => deedsOf s a ++ deeds (act s a) acts

/-- A node does with its loops what loops can do, whatever is done with it. -/
theorem run_live {s : Network × Clock × Node} (acts : List Act) (hinterval : 0 < s.2.2.policy.interval.nanos)
    (hregular : s.2.2.Regular) :
    Loops.Run s.2.2.policy.interval.nanos s.2.2.policy.timeout.nanos (s.2.1.now, s.2.2.loops) (deeds s acts)
        ((live s acts).2.1.now, (live s acts).2.2.loops) ∧
      (live s acts).2.2.Regular ∧ (live s acts).2.2.policy = s.2.2.policy := by
  induction acts generalizing s with
  | nil => exact ⟨.refl _, hregular, rfl⟩
  | cons a acts ih =>
    suffices one : Loops.Run s.2.2.policy.interval.nanos s.2.2.policy.timeout.nanos (s.2.1.now, s.2.2.loops)
        (deedsOf s a) ((act s a).2.1.now, (act s a).2.2.loops) ∧ (act s a).2.2.Regular ∧
        (act s a).2.2.identity = s.2.2.identity by
      obtain ⟨hrun, hregular', hidentity⟩ := one
      have hpolicy := (eq_of_identity hidentity).2.2.2
      obtain ⟨hrest, hregular, hsame⟩ := ih (hpolicy ▸ hinterval) hregular'
      rw [hpolicy] at hrest
      exact ⟨hrun.trans hrest, hregular, hsame.trans hpolicy⟩
    obtain ⟨net, clock, n⟩ := s
    cases a with
    | start => exact ⟨Loops.run_start n.schedule hregular, Schedule.regular_start n.schedule _ _ _, rfl⟩
    | stop => exact ⟨Loops.run_stop n.schedule hregular, n.schedule.regular_stop _, rfl⟩
    | rewire net => exact ⟨.refl _, hregular, rfl⟩
    | pass span =>
      have hnow : clock.now ≤ clock.now + span := Nat.le_add_right _ _
      obtain ⟨hrun, hregular'⟩ := run_watch hinterval hregular net hnow
      have htime : (act (net, clock, n) (.pass span)).2.1.now = clock.now + span :=
        Nat.max_eq_right ((watched_watch hinterval net hnow).now_le hnow)
      rw [htime]
      exact ⟨hrun, hregular', congrArg Prod.fst (core_watch n net clock (clock.now + span))⟩

theorem startFree_deeds (s : Network × Clock × Node) {acts : List Act} (h : Act.start ∉ acts) :
    Loops.StartFree (deeds s acts) := by
  induction acts generalizing s with
  | nil => exact fun now l hl => by cases hl
  | cons a acts ih =>
    obtain ⟨ha, hacts⟩ := List.ne_and_not_mem_of_not_mem_cons h
    refine Loops.StartFree.append ?_ (ih (act s a) hacts)
    cases a with
    | start => exact absurd rfl ha
    | stop => exact fun now l hl => by cases List.mem_singleton.mp hl
    | pass span => exact Happening.startFree _
    | rewire net => exact fun now l hl => by cases hl

end Node

end Muster
