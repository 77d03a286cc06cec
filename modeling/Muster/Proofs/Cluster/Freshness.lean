import Muster.Proofs.Cluster.Leaving
import Muster.Proofs.Node.Freshness

/-! # Fresh health

What is known of a member is what its checks came to since it was enrolled: every check that has ended by now is taken,
in the order in which they ended, and the last of them did not begin long ago. -/

namespace Muster

open Loops

namespace Cluster

variable {c : Cluster} {n : Node} {id : Nat}

/-! ### Places -/

/-- A place that was taken is a member's only if it was one before. -/
theorem places_back (c : Cluster) (e : Event) (hid : id ∈ (c.react e).roster.places) (hlt : id < c.roster.nodes.length) :
    id ∈ c.roster.places := by
  rcases c.react_cases e with ⟨hsame, -⟩ | ⟨-, -, -, n, -, -, he, -⟩ | ⟨name, t, ht, he, -⟩ | ⟨he, -⟩
  · rwa [Roster.places, hsame.members] at hid
  · rw [he] at hid
    obtain ⟨m, hm, rfl⟩ := List.mem_map.mp hid
    rcases Roster.mem_members_seat hm with ⟨hm, -⟩ | rfl
    · exact List.mem_map_of_mem hm
    · exact absurd hlt (Nat.lt_irrefl _)
  · rw [he] at hid
    obtain ⟨place, -, rfl⟩ := Roster.remove_eq_ok ht
    obtain ⟨m, hm, rfl⟩ := List.mem_map.mp hid
    exact List.mem_map_of_mem (List.mem_filter.mp hm).1
  · rw [he] at hid
    cases hid

/-- A node keeps its place. -/
theorem length_react_le (h : c.roster.Sound) (e : Event) : c.roster.nodes.length ≤ (c.react e).roster.nodes.length := by
  by_contra hlt
  have hlast : (c.react e).roster.nodes.length < c.roster.nodes.length := Nat.lt_of_not_le hlt
  obtain ⟨n', hn', -⟩ := becomes_react h e (List.getElem?_eq_getElem hlast)
  exact absurd (List.getElem?_eq_some_iff.mp hn').1 (Nat.lt_irrefl _)

theorem places_run_back (h : c.roster.Sound) (es : List Event) (hid : id ∈ (c.run es).roster.places)
    (hlt : id < c.roster.nodes.length) : id ∈ c.roster.places := by
  induction es generalizing c with
  | nil => exact hid
  | cons e es ih =>
    have hlt' := Nat.lt_of_lt_of_le hlt (length_react_le h e)
    exact places_back c e (ih (sound_react h e) hid hlt') hlt

/-! ### What is known of a member -/

/-- What becomes of a member's health at an event: the checks that end then are taken. -/
theorem health_becomes {e : Event} {n' : Node} (h : Becomes c id n e n')
    (hreal : ∀ place moment x, e ≠ .checked place moment x) :
    n'.health = (Node.findings (c.happened id e)).foldl Node.Finding.take n.health := by
  cases h with
  | recorded => exact absurd rfl (hreal _ _ _)
  | spared h => exact absurd rfl (hreal _ _ _)
  | @watched span net clock hnow h =>
    rw [h]
    exact n.health_watch net clock _
  | _ => rfl

/-- Nothing is due at a member that was not done by now. -/
theorem settled_becomes {e : Event} {n' : Node} (h : Becomes c id n e n') (hinterval : 0 < n.policy.interval.nanos)
    (hplace : id ∈ (c.react e).roster.places) (hsettled : n.Settled c.clock.now) :
    n'.Settled (c.react e).clock.now := by
  have still : (∀ span, e ≠ .passed span) → n.Settled (c.react e).clock.now := fun he => by
    rwa [c.now_react_eq he]
  cases h with
  | left h => exact absurd hplace h.2
  | stayed h => exact still fun _ => by simp
  | operated => exact still fun _ => by simp
  | recorded => exact still fun _ => by simp
  | spared h => exact still fun _ => by simp
  | rewired => exact still fun _ => by simp
  | @watched span net clock hnow h =>
    rw [show (c.react (.passed span)).clock.now = c.clock.now + span from c.now_advance span]
    exact (Node.watched_watch hinterval net (hnow ▸ Nat.le_add_right _ _)).later

/-- Whoever is a member until later is known by the checks that ended until then. -/
theorem health_later (h : c.roster.Sound) (es : List Event) (hn : c.roster.nodes[id]? = some n)
    (hinterval : 0 < n.policy.interval.nanos) (hreal : ∀ place moment x, Event.checked place moment x ∉ es)
    (hplace : id ∈ (c.run es).roster.places) (hsettled : n.Settled c.clock.now) :
    ∃ n', (c.run es).roster.nodes[id]? = some n' ∧ n'.Settled (c.run es).clock.now ∧
      n'.health = (Node.findings (c.happenedIn id es)).foldl Node.Finding.take n.health := by
  induction es generalizing c n with
  | nil => exact ⟨n, hn, hsettled, rfl⟩
  | cons e es ih =>
    obtain ⟨k, hk, hbecomes⟩ := becomes_react h e hn
    have sound := sound_react h e
    have hplace' := places_run_back sound es hplace (List.getElem?_eq_some_iff.mp hk).1
    have hpolicy := policy_becomes hbecomes
    obtain ⟨n', hn', hsettled', hhealth⟩ := ih sound hk (hpolicy ▸ hinterval)
      (fun place moment x hx => hreal place moment x (List.mem_cons_of_mem e hx)) hplace
      (settled_becomes hbecomes hinterval hplace' hsettled)
    refine ⟨n', hn', hsettled', ?_⟩
    rw [hhealth, health_becomes hbecomes fun place moment x he =>
      hreal place moment x (he ▸ List.mem_cons_self)]
    show _ = (Node.findings (c.happened id e ++ (c.react e).happenedIn id es)).foldl Node.Finding.take n.health
    rw [Node.findings_append, List.foldl_append]

/-- Of the deeds of a node's loops, all but stops happen at the node by itself. -/
theorem filterMap_deedsIn {β : Type} {g : Deed Pending → Option β} (hg : g .stopped = none) (c : Cluster) (id : Nat)
    (es : List Event) : (c.deedsIn id es).filterMap g = ((c.happenedIn id es).filterMap Node.Happening.deed?).filterMap g := by
  induction es generalizing c with
  | nil => rfl
  | cons e es ih =>
    show (c.deedsAt id e ++ (c.react e).deedsIn id es).filterMap g =
      ((c.happened id e ++ (c.react e).happenedIn id es).filterMap Node.Happening.deed?).filterMap g
    rw [List.filterMap_append, List.filterMap_append, List.filterMap_append, ih]
    refine congrArg (· ++ _) ?_
    cases e with
    | changed x =>
      show (if _ then [Deed.stopped] else []).filterMap g = []
      split
      · exact List.filterMap_cons_none hg
      · rfl
    | _ => rfl

/-- What is known of a node is fresh: it was enrolled at `registered` as `enrolled`, and `hs` happened at it. -/
structure Fresh (policy : Policy) (registered now : Nat) (enrolled : Health) (hs : List Node.Happening) (n : Node) :
    Prop where
  /-- It is what was known at first and what the checks came to that ended. -/
  health : n.health = (Node.findings hs).foldl Node.Finding.take enrolled
  /-- The member list tells what the last of them came to. -/
  shows : ∀ f, (Node.findings hs).getLast? = some f → n.health.Shows f.outcome
  /-- Every check that began has ended, or is under way. -/
  accounted : begun (hs.filterMap Node.Happening.deed?) = (Node.findings hs).map Node.Finding.check ++ underWay n.loops
  past : ∀ f ∈ Node.findings hs, f.check.ends ≤ now
  unended : ∀ c ∈ underWay n.loops, now < c.ends
  /-- They ended in the order in which they began. -/
  apart : (begun (hs.filterMap Node.Happening.deed?)).Pairwise fun a b => a.ends ≤ b.started
  /-- The last that has ended, or else the enrollment, is not long ago. -/
  recent : now ≤ lastFrom registered ((Node.findings hs).map Node.Finding.check) +
    (max policy.interval.nanos policy.timeout.nanos + policy.timeout.nanos)

/-- The loop of a node that was just enrolled finds nothing due. -/
theorem Enrolled.settled {policy : Policy} {common : CommonSettings} {net : Network} {es : List Event}
    {name url version : String} {k : Node} (h : Enrolled (start policy common net) id es name url version k)
    (hinterval : 0 < policy.interval.nanos) (now : Nat) : (k.start now).Settled now ∧
      k.health = .registered ((start policy common net).run es).clock.moment version ∧ k.policy = policy := by
  obtain ⟨client, -, hk⟩ := make_node h.make
  have hpolicy : k.policy = policy := by
    rw [hk]
    exact policy_run policy common net es
  refine ⟨fun t e hnext => ?_, by rw [hk], hpolicy⟩
  have hschedule : k.schedule = .stopped := by rw [hk]
  have hstart : (k.start now).schedule = ⟨some (.waiting (now + policy.interval.nanos)), []⟩ := by
    show k.schedule.start now k.policy.interval.nanos k.policy.timeout.nanos = _
    rw [hschedule, hpolicy]
    exact congrArg (Schedule.mk · []) (congrArg some (begin_of_pos hinterval))
  rw [hstart] at hnext
  cases hnext
  exact Nat.lt_add_of_pos_right hinterval

/-- What is known of a member is its enrollment or the outcome of the last of its own checks that has ended by now, and
that began no longer ago than the longer of an interval and the time that a check may take, and the time that a check may
take; or else it was enrolled no longer ago. -/
theorem health_fresh (policy : Policy) (common : CommonSettings) (net : Network)
    (hinterval : 0 < policy.interval.nanos) (htimeout : 0 < policy.timeout.nanos) (es : List Event)
    (hreal : ∀ place moment x, Event.checked place moment x ∉ es) (m : String × Nat)
    (hm : m ∈ ((start policy common net).run es).roster.members) :
    ∃ es₁ name url version k es₂ n, es = es₁ ++ .changed (.enroll name url version) :: es₂ ∧
      Enrolled (start policy common net) m.2 es₁ name url version k ∧
      ((start policy common net).run es).roster.nodes[m.2]? = some n ∧ n.name = m.1 ∧
      Fresh policy ((start policy common net).run es₁).clock.now ((start policy common net).run es).clock.now
        (.registered ((start policy common net).run es₁).clock.moment version)
        ((((start policy common net).run es₁).react (.changed (.enroll name url version))).happenedIn m.2 es₂) n := by
  have sound := sound_run policy common net es
  obtain ⟨n, hn, hname⟩ := sound.filed m hm
  have hplace : m.2 ∈ ((start policy common net).run es).roster.places := List.mem_map_of_mem hm
  have hcurrent : n.loops.current.isSome := sound.running n (Roster.mem_memberNodes.mpr ⟨m, hm, hn⟩)
  obtain ⟨es₁, name, url, version, k, es₂, rfl, hmade⟩ := exists_enrolled policy common net es m.2 n hn
  refine ⟨es₁, name, url, version, k, es₂, n, rfl, hmade, hn, hname, ?_⟩
  obtain ⟨hk, hnow, n', hn', -, -, hrun⟩ := hmade.run hinterval es₂
  have sound' := sound_react (sound_run policy common net es₁) (.changed (.enroll name url version))
  rw [run_append] at hn hplace ⊢
  generalize hc : (start policy common net).run es₁ = c at *
  generalize hc' : c.react (.changed (.enroll name url version)) = c' at *
  have hreact : c.run (.changed (.enroll name url version) :: es₂) = c'.run es₂ := by rw [← hc']; rfl
  rw [hreact] at hn hplace ⊢
  obtain rfl : n' = n := Option.some.inj (hn'.symm.trans hn)
  -- What is known of it.
  obtain ⟨hsettled, hregistered, hpolicy⟩ := hmade.settled hinterval c.clock.now
  obtain ⟨n, hn, hsettled', hhealth⟩ := health_later sound' es₂ hk (show 0 < k.policy.interval.nanos from hpolicy ▸ hinterval)
    (fun place moment x hx => hreal place moment x (List.mem_append_right _ (List.mem_cons_of_mem _ hx))) hplace
    (hnow ▸ hsettled)
  obtain rfl : n' = n := Option.some.inj (hn'.symm.trans hn)
  rw [show (k.start c.clock.now).health = k.health from rfl, hregistered, hc] at hhealth
  -- What its loop did.
  have hfree := startFree_deedsIn c' m.2 es₂
  have hsteady := hrun.steady hinterval hfree hcurrent
  have hpunctual := hrun.punctual ((Step.start c.clock.now (unstarted : Loops Pending)).punctual punctual_unstarted)
  have hspaced := ((Run.one (.start c.clock.now unstarted)).trans hrun).spaced hinterval htimeout (patient_once hfree)
    (spaced_unstarted _ _ _)
  have hbegun : begun (c'.deedsIn m.2 es₂) = begun ((c'.happenedIn m.2 es₂).filterMap Node.Happening.deed?) :=
    filterMap_deedsIn rfl c' m.2 es₂
  have hended : ended (c'.deedsIn m.2 es₂) = (Node.findings (c'.happenedIn m.2 es₂)).map Node.Finding.check :=
    (filterMap_deedsIn rfl c' m.2 es₂).trans (Node.ended_deeds _)
  refine ⟨hhealth, fun f hf => ?_, ?_, fun f hf => ?_, fun x hx => hsettled'.unended hx, ?_, ?_⟩
  · rw [hhealth]
    exact Node.shows_last _ hf
  · rw [← hbegun, ← hended]
    exact hsteady.accounted
  · exact hsteady.past f.check (hended ▸ List.mem_map_of_mem hf)
  · rw [← hbegun]
    exact hspaced.apart
  · rw [← hended]
    exact hsteady.now_le hpunctual hcurrent

/-- A cluster whose checks may take longer than the interval. -/
def overdue : Cluster := start ⟨"secret", "v1", ⟨1000⟩, ⟨3000⟩⟩ blankSettings Node.slowHost

/-- A worker is enrolled that answers no check in time. -/
def overdueWorker : List Event := [.changed (.enroll "w1" "http://[::1]:81" "v1"), .passed 6999]

/-- Just before its second check ends, what is known of a worker is from a check that began almost as long ago as it
may. -/
theorem health_fresh_overdue : ∃ n, (overdue.run overdueWorker).roster.nodes[0]? = some n ∧
    (Node.findings ((overdue.run (overdueWorker.take 1)).happenedIn 0 [.passed 6999])).map
      (fun f => (f.check.started, f.check.ends)) = [(1000, 4000)] ∧
    (overdue.run overdueWorker).clock.now = 6999 ∧
    Fresh ⟨"secret", "v1", ⟨1000⟩, ⟨3000⟩⟩ 0 6999 (.registered 0 "v1")
      ((overdue.run (overdueWorker.take 1)).happenedIn 0 [.passed 6999]) n := by
  have hm : ("w1", 0) ∈ (overdue.run overdueWorker).roster.members := by decide +kernel
  have hspans : (Node.findings ((overdue.run (overdueWorker.take 1)).happenedIn 0 [.passed 6999])).map
      (fun f => (f.check.started, f.check.ends)) = [(1000, 4000)] := by decide +kernel
  have hnow : (overdue.run overdueWorker).clock.now = 6999 := by decide +kernel
  have hreal : ∀ place moment x, Event.checked place moment x ∉ overdueWorker := by
    intro place moment x hx
    simp [overdueWorker] at hx
  obtain ⟨es₁, name, url, version, k, es₂, n, hes, hmade, hn, -, hfresh⟩ :=
    health_fresh ⟨"secret", "v1", ⟨1000⟩, ⟨3000⟩⟩ blankSettings Node.slowHost (by decide) (by decide) overdueWorker hreal
      ("w1", 0) hm
  -- The worker is enrolled by the first event.
  cases es₁ with
  | nil =>
    cases hes
    rw [show ((start ⟨"secret", "v1", ⟨1000⟩, ⟨3000⟩⟩ blankSettings Node.slowHost).run overdueWorker).clock.now = 6999
      from hnow] at hfresh
    exact ⟨n, hn, hspans, hnow, hfresh⟩
  | cons e es₁ =>
    obtain ⟨-, hes⟩ := List.cons_eq_cons.mp hes
    cases es₁ with
    | nil => cases hes
    | cons e es₁ => cases es₁ <;> cases (List.cons_eq_cons.mp hes).2

end Cluster

end Muster
