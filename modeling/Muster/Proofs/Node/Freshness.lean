import Muster.Proofs.Node.Overlap

/-! # How old the last check is

A loop that nobody cancels checks its node again and again. At any time the last check that has ended began within the
longer of an interval and the time that a check may take, and the time that a check may take, before. What is known of a
node is what its checks came to, in the order in which they ended. -/

namespace Muster

open Schedule

namespace Loops

variable {ρ : Type} {interval timeout now r : Nat} {s s' : Nat × Loops ρ} {d : Option (Deed ρ)} {ds : List (Deed ρ)}
variable {p p' : Phase ρ}

/-- When the last of some checks began, or else the loop. -/
def lastFrom (r : Nat) (cs : List (Check ρ)) : Nat := (cs.getLast?.map Check.started).getD r

@[simp] theorem lastFrom_nil (r : Nat) : lastFrom r ([] : List (Check ρ)) = r := rfl

@[simp] theorem lastFrom_append (r : Nat) (cs : List (Check ρ)) (c : Check ρ) : lastFrom r (cs ++ [c]) = c.started := by
  simp [lastFrom]

/-- A loop that checks its node in time, if its last check began at `last`. -/
def Timely (interval timeout now last : Nat) : Phase ρ → Prop
  | .waiting due => due ≤ last + interval ∧ now ≤ last + max interval timeout
  | .checking c _ => c.started ≤ last + max interval timeout
  | _ => False

/-- The node has the one loop that was started at `r`. -/
structure Steady (interval timeout r : Nat) (s : Nat × Loops ρ) (ds : List (Deed ρ)) : Prop where
  alone : s.2.cancelled = []
  timely : ∀ p, s.2.current = some p → Timely interval timeout s.1 (lastFrom r (ended ds)) p
  /-- Every check that began has ended, or is the one under way. -/
  accounted : begun ds = ended ds ++ underWay s.2
  past : ∀ c ∈ ended ds, c.ends ≤ s.1

theorem underWay_current (current : Option (Phase ρ)) : underWay ⟨current, []⟩ = (current.bind Phase.check?).toList := by
  unfold underWay all
  cases current with
  | none => rfl
  | some p => cases hp : Phase.check? p <;> simp [hp]

/-- The loop of a node goes on as it should. -/
theorem Steady.goes {now : Nat} (h : Goes interval timeout now p d p')
    (hp : Punctual interval timeout now p) (hs : Steady interval timeout r (now, ⟨some p, []⟩) ds) :
    Steady interval timeout r (now, ⟨some p', []⟩) (ds ++ d.toList) := by
  obtain ⟨-, htimely, haccounted, hover⟩ := hs
  have htimely := htimely p rfl
  rw [underWay_current] at haccounted
  cases h with
  | restarted h => exact htimely.elim
  | @due t next c h hstarted hends htimeout hearliest hlatest =>
    have hbegun : begun (ds ++ [.began c]) = begun ds ++ [c] := begun_append ds _
    have hended : ended (ds ++ [.began c]) = ended ds := (ended_append ds _).trans (List.append_nil _)
    refine ⟨rfl, ?_, ?_, ?_⟩
    · rintro _ ⟨⟩
      show c.started ≤ lastFrom r (ended (ds ++ [.began c])) + _
      rw [hended, hstarted]
      exact htimely.2
    · rw [underWay_current]
      show begun (ds ++ [.began c]) = ended (ds ++ [.began c]) ++ [c]
      rw [hbegun, hended, haccounted]
      exact congrArg (· ++ [c]) (List.append_nil _)
    · show ∀ x ∈ ended (ds ++ [.began c]), _
      rw [hended]
      exact hover
  | @checked c next h =>
    obtain ⟨hnext, -, hends, htimeout⟩ := hp
    have hbegun : begun (ds ++ [.ended c]) = begun ds := (begun_append ds _).trans (List.append_nil _)
    have hended : ended (ds ++ [.ended c]) = ended ds ++ [c] := ended_append ds _
    refine ⟨rfl, ?_, ?_, ?_⟩
    · rintro _ ⟨⟩
      show next ≤ lastFrom r (ended (ds ++ [.ended c])) + interval ∧
        now ≤ lastFrom r (ended (ds ++ [.ended c])) + max interval timeout
      rw [hended, lastFrom_append]
      omega
    · rw [underWay_current]
      show begun (ds ++ [.ended c]) = ended (ds ++ [.ended c]) ++ []
      rw [hbegun, hended, haccounted, List.append_nil]
      rfl
    · show ∀ x ∈ ended (ds ++ [.ended c]), _
      rw [hended]
      intro x hx
      rcases List.mem_append.mp hx with hx | hx
      · exact hover x hx
      · exact List.mem_singleton.mp hx ▸ h

theorem Step.steady (h : Step interval timeout s d s') (hpunctual : ∀ p ∈ s.2.all, Punctual interval timeout s.1 p)
    (hs : Steady interval timeout r s ds) (hfree : StartFree d.toList) (hcurrent : s'.2.current.isSome) :
    Steady interval timeout r s' (ds ++ d.toList) := by
  cases h with
  | start now l => exact absurd List.mem_cons_self (hfree now l)
  | stop now l => cases hcurrent
  | @go now p p' d cancelled h =>
    obtain rfl : cancelled = [] := hs.alone
    exact hs.goes h (hpunctual p List.mem_cons_self)
  | linger h => exact absurd hs.alone (by simp)
  | quit h => exact absurd hs.alone (by simp)
  | @wait now t l hlater hbusy hdue =>
    rw [Option.toList_none, List.append_nil]
    obtain ⟨halone, htimely, haccounted, hover⟩ := hs
    refine ⟨halone, fun p hp => ?_, haccounted, fun c hc => Nat.le_trans (hover c hc) hlater⟩
    have hmem : p ∈ l.all := List.mem_append_right _ (Option.mem_toList.mpr hp)
    have htimely := htimely p hp
    cases p with
    | waiting due =>
      have ht := hdue _ hmem due _ rfl
      exact ⟨htimely.1, by have := htimely.1; omega⟩
    | checking c next => exact htimely
    | _ => exact htimely

/-- Only a start makes a loop that goes on. -/
theorem Step.current_back (h : Step interval timeout s d s') (hfree : StartFree d.toList)
    (hcurrent : s'.2.current.isSome) : s.2.current.isSome := by
  cases h with
  | start now l => exact absurd List.mem_cons_self (hfree now l)
  | stop now l => cases hcurrent
  | go h => rfl
  | linger h => exact hcurrent
  | quit h => exact hcurrent
  | wait => exact hcurrent

/-- A node that was started once, and that was not stopped, has that one loop. -/
theorem Run.steady (hinterval : 0 < interval)
    (h : Run interval timeout (r, unstarted.start r interval timeout) ds s') (hfree : StartFree ds)
    (hcurrent : s'.2.current.isSome) : Steady interval timeout r s' ds := by
  generalize hs : (r, (unstarted : Loops ρ).start r interval timeout) = s at h
  induction h with
  | refl =>
    subst hs
    refine ⟨rfl, fun p hp => ?_, ?_, fun c hc => by cases hc⟩
    · have hp : (unstarted : Loops ρ).opening r interval timeout = p := Option.some.inj hp
      rw [← hp, show (unstarted : Loops ρ).opening r interval timeout = Phase.begin r interval from rfl,
        begin_of_pos hinterval]
      exact ⟨Nat.le_refl _, Nat.le_add_right _ _⟩
    · rw [show underWay (unstarted.start r interval timeout) = underWay ⟨some (Phase.begin r interval : Phase ρ), []⟩ from rfl,
        underWay_current, begin_of_pos hinterval]
      rfl
  | @tail s' s'' ds d run step ih =>
    have hfree' : StartFree d.toList := fun now l hl => hfree now l (List.mem_append_right _ hl)
    have hsteady := ih (fun now l hl => hfree now l (List.mem_append_left _ hl)) (step.current_back hfree' hcurrent)
    have hpunctual := run.punctual (hs ▸ (Step.start r (unstarted : Loops ρ)).punctual punctual_unstarted)
    exact step.steady hpunctual hsteady hfree' hcurrent

/-- The last check that has ended is no older than a check may be. -/
theorem Steady.now_le (hs : Steady interval timeout r s ds) (hpunctual : ∀ p ∈ s.2.all, Punctual interval timeout s.1 p)
    (hcurrent : s.2.current.isSome) : s.1 ≤ lastFrom r (ended ds) + (max interval timeout + timeout) := by
  obtain ⟨p, hp⟩ := Option.isSome_iff_exists.mp hcurrent
  have htimely := hs.timely p hp
  have hpunctual := hpunctual p (List.mem_append_right _ (Option.mem_toList.mpr hp))
  cases p with
  | waiting due => exact Nat.le_trans htimely.2 (by omega)
  | checking c next =>
    obtain ⟨-, -, hends, htimeout⟩ := hpunctual
    have hstarted : c.started ≤ lastFrom r (ended ds) + max interval timeout := htimely
    omega
  | _ => exact htimely.elim

end Loops

/-- A check's outcome is what is known of a worker: the version that it told, or why it told none. -/
def Health.Shows (h : Health) : Except ClusterError String → Prop
  | .ok version => h.version = version ∧ h.error = none
  | .error e => h.error = some e.text

theorem Health.shows_record (h : Health) (now : Nat) (x : Except ClusterError String) : (h.record now x).Shows x := by
  cases x with
  | ok version => exact ⟨rfl, rfl⟩
  | error e => rfl

namespace Node

/-- The outcome of a check, when it is taken. -/
structure Finding where
  check : Check Pending
  moment : Nat
  outcome : Except ClusterError String

/-- Takes what a check came to. -/
def Finding.take (h : Health) (f : Finding) : Health := h.record f.moment f.outcome

/-- The outcome of the check that ends. -/
def Happening.finding? (h : Happening) : Option Finding :=
  let finding (c : Check Pending) : Finding :=
    ⟨c, h.clock.moment, h.node.outcome (c.result.land h.net WorkerCall.ping).2⟩
  match h.event with
  | .checked c _ => some (finding c)
  | .ended c => some (finding c)
  | _ => none

/-- What checks came to, in the order in which they ended. -/
def findings (hs : List Happening) : List Finding := hs.filterMap Happening.finding?

variable {until_ : Nat} {net : Network} {clock : Clock} {n : Node}

theorem findings_append (hs hs' : List Happening) : findings (hs ++ hs') = findings hs ++ findings hs' :=
  List.filterMap_append

/-- The checks that end are those of which something is found. -/
theorem ended_deeds (hs : List Happening) :
    Loops.ended (hs.filterMap Happening.deed?) = (findings hs).map Finding.check := by
  unfold Loops.ended findings
  rw [List.filterMap_filterMap, List.map_filterMap]
  refine congrArg (List.filterMap · hs) (funext fun h => ?_)
  unfold Happening.deed? Happening.finding?
  cases h.event <;> rfl

theorem health_watchEvents (until_ fuel : Nat) (net : Network) (clock : Clock) (n : Node) :
    (watchEvents until_ fuel (net, clock, n)).2.2.health =
      (findings (firstHappenings until_ fuel (net, clock, n))).foldl Finding.take n.health := by
  induction fuel generalizing net clock n with
  | zero => rfl
  | succ fuel ih =>
    unfold watchEvents firstHappenings
    cases hnext : n.schedule.next? with
    | none => rfl
    | some x =>
      obtain ⟨t, e⟩ := x
      by_cases hdue : t ≤ until_
      · simp only [if_pos hdue]
        rw [ih]
        cases e <;> rfl
      · simp only [if_neg hdue]
        rfl

/-- What is known of a node that was watched is what was known before and what its checks came to. -/
theorem health_watch (n : Node) (net : Network) (clock : Clock) (until_ : Nat) :
    (n.watch net clock until_).2.2.health =
      (findings (n.happenings net clock until_)).foldl Finding.take n.health :=
  health_watchEvents until_ _ net clock n

/-- What the last finding tells is what is known. -/
theorem shows_last {fs : List Finding} {f : Finding} (h : Health) (hf : fs.getLast? = some f) :
    (fs.foldl Finding.take h).Shows f.outcome := by
  obtain ⟨fs', rfl⟩ := List.getLast?_eq_some_iff.mp hf
  rw [List.foldl_append]
  exact Health.shows_record _ f.moment f.outcome

/-- Nothing is due at a node that was not done by now. -/
def Settled (now : Nat) (n : Node) : Prop := ∀ t e, n.schedule.next? = some (t, e) → now < t

/-- A check under way at a settled node has not ended. -/
theorem Settled.unended {now : Nat} (h : n.Settled now) {c : Check Pending} (hc : c ∈ Loops.underWay n.loops) :
    now < c.ends := by
  obtain ⟨p, hp, hcheck⟩ := List.mem_filterMap.mp hc
  rcases List.mem_append.mp hp with hp | hp
  · obtain ⟨d, hd, rfl⟩ := List.mem_map.mp hp
    cases hcheck
    obtain ⟨t, e, hnext, hle⟩ := Schedule.next?_le_ends hd
    exact Nat.lt_of_lt_of_le (h t e hnext) hle
  · cases p with
    | checking d next =>
      cases hcheck
      obtain ⟨t, e, hnext, hle⟩ := Schedule.next?_le_next (Option.mem_toList.mp hp) rfl
      exact Nat.lt_of_lt_of_le (h t e hnext) hle
    | _ => cases hcheck

end Node

end Muster
