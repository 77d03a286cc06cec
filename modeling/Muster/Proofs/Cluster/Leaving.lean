import Muster.Proofs.Cluster.Aggregation
import Muster.Proofs.Cluster.Nodes
import Muster.Proofs.Node.Silence

/-! # Nodes that left

A node that is stopped, by itself or because it left the cluster, begins no check until it is started again, if its loops
find nothing due when they notice that they were cancelled. A loop that finds a check due may begin it all the same. -/

namespace Muster

open Schedule Loops

/-- What loops do after a stop that they heed. -/
theorem Loops.silent_after_stop {interval timeout t₀ now : Nat} {ρ : Type} (hinterval : 0 < interval)
    (htimeout : 0 < timeout) {ds : List (Deed ρ)} {l : Loops ρ}
    (h : Run interval timeout (t₀, unstarted) ds (now, l)) :
    (timeout < interval → Phase.waiting now ∉ l.all → ∀ p ∈ l.all, Heeds now p) ∧
    (Patient interval timeout ds → ((underWay l).filter fun c => now < c.ends).length ≤ 1) ∧
    ((∀ p ∈ l.all, Heeds now p) → ∀ ds' s', Run interval timeout (now, l.stop) ds' s' → StartFree ds' →
      begun ds' = [] ∧ (ended ds' ++ underWay s'.2).Perm (underWay l)) := by
  have hpunctual := h.punctual punctual_unstarted
  refine ⟨fun hshort hdue p hp => ?_, fun hpatient => ?_, fun hheeds ds' s' hrun hfree => ?_⟩
  · have honTime := h.onTime hshort punctual_unstarted (fun p hp => by cases hp)
    exact heeds_of_onTime (honTime p hp) fun he => hdue (he ▸ hp)
  · exact (h.spaced hinterval htimeout hpatient (spaced_unstarted _ _ t₀)).length_unended_le
  · obtain ⟨-, hbegun, hperm⟩ := hrun.winding hinterval (.of_stop hpunctual hheeds) hfree
    refine ⟨hbegun, ?_⟩
    unfold underWay at hperm ⊢
    rwa [all_stop] at hperm

/-- A node that was stopped does with its loops what loops can do after a stop. -/
theorem Node.run_stopped {n : Node} {interval timeout now : Nat} {ds : List (Deed Pending)} {s : Nat × Loops Pending}
    (hinterval : n.policy.interval.nanos = interval) (hregular : n.Regular)
    (h : Run interval timeout (now, n.stop.loops) ds s) : Run interval timeout (now, n.loops.stop) ds s := by
  subst hinterval
  exact (run_cancelled n.schedule hregular none).trans h

namespace Cluster

/-- Whoever ceases to be a member is stopped, and is never started again. -/
theorem run_left {c : Cluster} {n : Node} {id : Nat} (h : c.roster.Sound) (hn : c.roster.nodes[id]? = some n)
    (hinterval : 0 < n.policy.interval.nanos) (hregular : n.Regular) (x : Change) (es : List Event)
    (hplace : id ∈ c.roster.places) (hleft : id ∉ (c.change x).1.roster.places) :
    (c.change x).1.roster.nodes[id]? = some n.stop ∧ ∃ n' ds,
      ((c.change x).1.run es).roster.nodes[id]? = some n' ∧
      Run n.policy.interval.nanos n.policy.timeout.nanos (c.clock.now, n.loops.stop) ds
        (((c.change x).1.run es).clock.now, n'.loops) ∧ StartFree ds := by
  have hstop := nodes_change h x hn
  rw [if_pos ⟨hplace, hleft⟩] at hstop
  obtain ⟨n', hn', -, -, hrun⟩ := run_later (sound_react h (.changed x)) es hstop hinterval (n.schedule.regular_stop _)
  have hnow := c.now_react_eq (e := .changed x) fun _ => by simp
  rw [hnow] at hrun
  exact ⟨hstop, n', _, hn', Node.run_stopped rfl hregular hrun, startFree_deedsIn _ id es⟩

/-- After a stop, and until the next start, a node begins no check, and the checks that end are those that were under
way, at most one of them a check that has not ended yet, as long as no loop finds a check due when it notices its token;
none does if checks take less than an interval and none is due at the moment of the stop. A node is stopped by hand, or
by the change by which it ceases to be a member, and is then never started again. -/
theorem stopped_silent (policy : Policy) (common : CommonSettings) (net : Network)
    (hinterval : 0 < policy.interval.nanos) (htimeout : 0 < policy.timeout.nanos) :
    (∀ (t₀ now : Nat) (ds : List (Deed Pending)) (l : Loops Pending),
      Run policy.interval.nanos policy.timeout.nanos (t₀, unstarted) ds (now, l) →
      (policy.timeout.nanos < policy.interval.nanos → Phase.waiting now ∉ l.all → ∀ p ∈ l.all, Heeds now p) ∧
      (Patient policy.interval.nanos policy.timeout.nanos ds → ((underWay l).filter fun c => now < c.ends).length ≤ 1) ∧
      ((∀ p ∈ l.all, Heeds now p) → ∀ ds' s', Run policy.interval.nanos policy.timeout.nanos (now, l.stop) ds' s' →
        StartFree ds' → begun ds' = [] ∧ (ended ds' ++ underWay s'.2).Perm (underWay l))) ∧
    (∀ (name url version : String) (moment : Nat) (n : Node), Node.make name url version policy moment = .ok n →
      ∀ (net : Network) (clock : Clock) (acts acts' : List Node.Act), Node.Act.start ∉ acts' →
      let s := Node.live (net, clock, n) acts
      let stopped := Node.act s .stop
      Run policy.interval.nanos policy.timeout.nanos (clock.now, unstarted) (Node.deeds (net, clock, n) acts)
        (s.2.1.now, s.2.2.loops) ∧
      Run policy.interval.nanos policy.timeout.nanos (s.2.1.now, s.2.2.loops.stop) (Node.deeds stopped acts')
        ((Node.live stopped acts').2.1.now, (Node.live stopped acts').2.2.loops) ∧
      StartFree (Node.deeds stopped acts')) ∧
    ∀ (es : List Event) (id : Nat) (n : Node),
      let c := (start policy common net).run es
      c.roster.nodes[id]? = some n →
      (∃ t₀ ds, Run policy.interval.nanos policy.timeout.nanos (t₀, unstarted) ds (c.clock.now, n.loops) ∧
        Patient policy.interval.nanos policy.timeout.nanos ds) ∧
      ∀ (x : Change) (es' : List Event), id ∈ c.roster.places → id ∉ (c.change x).1.roster.places →
        (c.change x).1.roster.nodes[id]? = some n.stop ∧ ∃ n' ds,
          ((c.change x).1.run es').roster.nodes[id]? = some n' ∧
          Run policy.interval.nanos policy.timeout.nanos (c.clock.now, n.loops.stop) ds
            (((c.change x).1.run es').clock.now, n'.loops) ∧ StartFree ds := by
  refine ⟨fun t₀ now ds l h => silent_after_stop hinterval htimeout h, ?_, ?_⟩
  · intro name url version moment n hmake net clock acts acts' hacts s stopped
    obtain ⟨hpolicy, hloops, hregular⟩ := Node.loops_make hmake
    obtain ⟨hrun, hregular, hsame⟩ := Node.run_live (s := (net, clock, n)) acts (hpolicy ▸ hinterval) hregular
    have hsame : s.2.2.policy = policy := hsame.trans hpolicy
    obtain ⟨hrest, -⟩ := Node.run_live (s := stopped) acts' (hsame ▸ hinterval) (s.2.2.schedule.regular_stop _)
    rw [show stopped.2.2.policy = policy from hsame] at hrest
    rw [show (net, clock, n).2.2 = n from rfl, hpolicy, hloops] at hrun
    exact ⟨hrun, Node.run_stopped (congrArg (·.interval.nanos) hsame) hregular hrest, Node.startFree_deeds stopped hacts⟩
  · intro es id n c hn
    have sound := sound_run policy common net es
    obtain ⟨es₁, name, url, version, k, es₂, rfl, hmade⟩ := exists_enrolled policy common net es id n hn
    obtain ⟨-, -, n', hn', hregular, hpolicy, hrun⟩ := hmade.run hinterval es₂
    have hlater : c = (((start policy common net).run es₁).react (.changed (.enroll name url version))).run es₂ :=
      run_append _ es₁ _
    rw [← hlater] at hn' hrun
    obtain rfl : n' = n := Option.some.inj (hn'.symm.trans hn)
    refine ⟨⟨_, _, (Run.one (.start _ unstarted)).trans hrun, patient_once (startFree_deedsIn _ id es₂)⟩,
      fun x es' hplace hleft => ?_⟩
    have h := run_left sound hn (hpolicy ▸ hinterval) hregular x es' hplace hleft
    rwa [hpolicy] at h

/-- A worker that is slow to answer is enrolled, and its first check is under way. -/
def slowMember : Cluster :=
  (start ⟨"secret", "v1", ⟨3000⟩, ⟨1000⟩⟩ blankSettings Node.slowHost).run
    [.changed (.enroll "w1" "http://[::1]:81" "v1"), .passed 3500]

/-- The check under way ends after the worker was removed, and none begins any more. -/
theorem stopped_silent_removed : ∃ n n' ds, slowMember.roster.nodes[0]? = some n ∧
    (underWay n.loops).map (fun c => (c.started, c.ends)) = [(3000, 4000)] ∧
    ((slowMember.change (.remove "w1")).1.run [.passed 5000]).roster.nodes[0]? = some n' ∧
    Run 3000 1000 (3500, n.loops.stop) ds (8500, n'.loops) ∧ begun ds = [] ∧ (ended ds).Perm (underWay n.loops) := by
  have hplaces : 0 ∈ slowMember.roster.places ∧ 0 ∉ (slowMember.change (.remove "w1")).1.roster.places ∧
      slowMember.clock.now = 3500 ∧ ((slowMember.change (.remove "w1")).1.run [.passed 5000]).clock.now = 8500 := by
    decide +kernel
  have hbefore : (slowMember.roster.nodes[0]?).map (fun n =>
      ((underWay n.loops).map (fun c => (c.started, c.ends)), decide (Phase.waiting 3500 ∉ n.loops.all))) =
      some ([(3000, 4000)], true) := by decide +kernel
  have hafter : (((slowMember.change (.remove "w1")).1.run [.passed 5000]).roster.nodes[0]?).map
      (fun n => underWay n.loops) = some [] := by decide +kernel
  obtain ⟨hplace, hleft, hnow, hlater⟩ := hplaces
  obtain ⟨n, hn, hwaits⟩ := Option.map_eq_some_iff.mp hbefore
  obtain ⟨hcheck, hwaits⟩ := Prod.ext_iff.mp hwaits
  obtain ⟨hloops, -, hmembers⟩ := stopped_silent ⟨"secret", "v1", ⟨3000⟩, ⟨1000⟩⟩ blankSettings Node.slowHost
    (by decide) (by decide)
  obtain ⟨⟨t₀, ds₀, hrun₀, -⟩, hleaves⟩ := hmembers _ 0 n hn
  obtain ⟨-, n', ds, hn', hrun, hfree⟩ := hleaves (.remove "w1") [.passed 5000] hplace hleft
  obtain ⟨hheeds, -, hsilent⟩ := hloops _ _ _ _ hrun₀
  have hheeds := hheeds (by decide) (by rw [show (Cluster.run _ _).clock.now = 3500 from hnow]; simpa using hwaits)
  obtain ⟨hbegun, hperm⟩ := hsilent hheeds ds _ hrun hfree
  have hnone : underWay n'.loops = [] := by
    rw [show ((slowMember.change (.remove "w1")).1.run [.passed 5000]).roster.nodes[0]? = some n' from hn'] at hafter
    exact Option.some.inj hafter
  rw [hnone, List.append_nil] at hperm
  refine ⟨n, n', ds, hn, hcheck, hn', ?_, hbegun, hperm⟩
  rw [← hnow, ← hlater]
  exact hrun

/-- A check that takes longer than the interval leaves the next one due when its loop notices that it was cancelled, which
may then begin it. -/
theorem stopped_begins : ∃ (ds ds' : List (Deed Unit)) (l : Loops Unit) (s : Nat × Loops Unit),
    Run 100 1000 (0, unstarted) ds (210, l) ∧ Run 100 1000 (210, l.stop) ds' s ∧ StartFree ds' ∧ begun ds' ≠ [] := by
  have h₁ : Run 100 1000 (0, (unstarted : Loops Unit)) [.started 0 unstarted] (0, ⟨some (.waiting 100), []⟩) :=
    Run.one (.start 0 unstarted)
  have h₂ := h₁.tail (.wait (t := 100) (by decide) (fun p hp => by cases hp) fun p hp u e he => by
    cases List.mem_singleton.mp hp
    cases he
    decide)
  have first : Goes 100 1000 100 (.waiting 100) (some (.began ⟨100, 250, ()⟩)) (.checking ⟨100, 250, ()⟩ 200) :=
    .due (by decide) rfl (by decide) (by decide) (by decide) (by decide)
  have h₃ := h₂.tail (.go first)
  have h₄ := h₃.tail (.wait (t := 210) (by decide) (fun p hp => by cases hp) fun p hp u e he => by
    cases List.mem_singleton.mp hp
    cases he
    decide)
  have k₁ : Run 100 1000 (210, (⟨none, [.checking ⟨100, 250, ()⟩ 200]⟩ : Loops Unit)) []
      (250, ⟨none, [.checking ⟨100, 250, ()⟩ 200]⟩) := by
    refine Run.one (d := none) (.wait (by decide) (fun p hp => ?_) fun p hp u e he => ?_)
    · cases List.mem_singleton.mp hp
      exact fun h => by cases h
    · cases List.mem_singleton.mp hp
      cases he
      decide
  have k₂ := k₁.tail (.linger (a := []) (.checked (by decide)))
  have second : Goes 100 1000 250 (.waiting 200) (some (.began ⟨250, 400, ()⟩)) (.checking ⟨250, 400, ()⟩ 350) :=
    .due (by decide) rfl (by decide) (by decide) (by decide) (by decide)
  have k₃ := k₂.tail (.linger (a := []) second)
  refine ⟨_, _, _, _, h₄, k₃, fun now l hl => ?_, fun h => ?_⟩
  · simp at hl
  · simp [begun, begun?] at h

end Cluster

end Muster
