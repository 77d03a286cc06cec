import Mathlib.Data.List.Induction
import Muster.Proofs.Cluster.Run
import Muster.Proofs.Node.Overlap

/-! # What becomes of each node

A node keeps its place in the roster from the call that enrolls it on. It is stopped by the change by which it ceases to
be a member's, watched as time goes by, and otherwise left alone: it is started once, when it is made. -/

namespace Muster

theorem Node.stop_stop (n : Node) : n.stop.stop = n.stop := by
  simp [Node.stop, Schedule.stop]

namespace Roster

/-- The places of the members' nodes. -/
def places (r : Roster) : List Nat := r.members.map (·.2)

variable {r : Roster} {n : Node} {id : Nat}

theorem nodes_stopAll (ids : List Nat) (hn : r.nodes[id]? = some n) :
    (r.modifyAll ids Node.stop).nodes[id]? = some (if id ∈ ids then n.stop else n) := by
  induction ids generalizing r n with
  | nil => exact hn
  | cons a ids ih =>
    have hmodify : (r.modify a Node.stop).nodes[id]? = some (if a = id then n.stop else n) := by
      show (r.nodes.modify a Node.stop)[id]? = _
      rw [List.getElem?_modify, hn]
      rfl
    refine (ih hmodify).trans (congrArg some ?_)
    by_cases ha : a = id
    · subst ha
      simp [Node.stop_stop]
    · simp [ha, Ne.symm ha]

/-- Whoever takes a seat stops the nodes that give way, and does nothing else to those that there are. -/
theorem nodes_seat_old (r : Roster) (now : Nat) (k : Node) (hn : r.nodes[id]? = some n) : (r.seat now k).nodes[id]? =
    some (if id ∈ (r.members.filter (r.givesWay k.name k.url)).map (·.2) then n.stop else n) := by
  have hlt : id < (r.modifyAll ((r.members.filter (r.givesWay k.name k.url)).map (·.2)) Node.stop).nodes.length := by
    rw [length_modifyAll]
    exact (List.getElem?_eq_some_iff.mp hn).1
  rw [seat, List.getElem?_append_left hlt, nodes_stopAll _ hn]

/-- A node that gives way leaves its place among the members', and no other node does. -/
theorem Sound.leaves_seat (h : r.Sound) (now : Nat) (k : Node) :
    id ∈ (r.members.filter (r.givesWay k.name k.url)).map (·.2) ↔
      id ∈ r.places ∧ id ∉ (r.seat now k).places := by
  constructor
  · intro hid
    obtain ⟨m, hm, rfl⟩ := List.mem_map.mp hid
    obtain ⟨hm, hold⟩ := List.mem_filter.mp hm
    refine ⟨List.mem_map_of_mem hm, fun hstay => ?_⟩
    obtain ⟨m', hm', hplace⟩ := List.mem_map.mp hstay
    rcases mem_members_seat hm' with ⟨hm', hstay⟩ | rfl
    · rw [h.eq_of_place hm' hm hplace, hold] at hstay
      cases hstay
    · exact Nat.ne_of_gt (h.lt_length hm) hplace
  · rintro ⟨hid, hleft⟩
    obtain ⟨m, hm, rfl⟩ := List.mem_map.mp hid
    refine List.mem_map_of_mem (List.mem_filter.mpr ⟨hm, ?_⟩)
    by_contra hstay
    exact hleft (List.mem_map_of_mem (List.mem_append_left _ (List.mem_filter.mpr ⟨hm, by simpa using hstay⟩)))

theorem Sound.leaves_remove (h : r.Sound) {name : String} {place : Nat} (hplace : r.find? name = some place) :
    id = place ↔ id ∈ r.places ∧ id ∉ (r.members.filter (·.1 ≠ name)).map (·.2) := by
  have hmem := find?_eq_some hplace
  constructor
  · rintro rfl
    refine ⟨List.mem_map_of_mem hmem, fun hstay => ?_⟩
    obtain ⟨m, hm, hid⟩ := List.mem_map.mp hstay
    obtain ⟨hm, hne⟩ := List.mem_filter.mp hm
    rw [h.eq_of_place hm hmem hid] at hne
    simp at hne
  · rintro ⟨hid, hleft⟩
    obtain ⟨m, hm, rfl⟩ := List.mem_map.mp hid
    by_contra hne
    refine hleft (List.mem_map_of_mem (List.mem_filter.mpr ⟨hm, ?_⟩))
    have hname : m.1 ≠ name := fun hname => hne (congrArg Prod.snd (h.eq_of_name hm hmem hname))
    simpa using hname

end Roster

namespace Cluster

variable {c : Cluster} {n : Node} {id : Nat}

/-! ### Changes -/

/-- A node whose place is a member's no more is stopped; every other node stays as it is. -/
theorem nodes_change (h : c.roster.Sound) (x : Change) (hn : c.roster.nodes[id]? = some n) :
    (c.change x).1.roster.nodes[id]? =
      some (if id ∈ c.roster.places ∧ id ∉ (c.change x).1.roster.places then n.stop else n) := by
  have same : ∀ c', c' = c →
      c'.roster.nodes[id]? = some (if id ∈ c.roster.places ∧ id ∉ c'.roster.places then n.stop else n) := by
    rintro c' rfl
    rw [if_neg fun hleft => hleft.2 hleft.1]
    exact hn
  cases x with
  | enroll name url version =>
    show (c.enroll name url version).1.roster.nodes[id]? =
      some (if id ∈ c.roster.places ∧ id ∉ (c.enroll name url version).1.roster.places then n.stop else n)
    rcases c.enroll_cases name url version with ⟨-, e, he⟩ | ⟨-, k, -, he⟩
    · exact same _ (by rw [he])
    · rw [he]
      show (c.roster.seat c.clock.now k).nodes[id]? = _
      rw [Roster.nodes_seat_old _ _ _ hn]
      exact congrArg some (if_congr (h.leaves_seat c.clock.now k) rfl rfl)
  | remove name =>
    show (c.remove name).1.roster.nodes[id]? =
      some (if id ∈ c.roster.places ∧ id ∉ (c.remove name).1.roster.places then n.stop else n)
    rcases c.remove_cases name with ⟨-, he⟩ | ⟨-, t, ht, he⟩
    · exact same _ (by rw [he])
    · rw [he]
      obtain ⟨place, hplace, rfl⟩ := Roster.remove_eq_ok ht
      show (c.roster.nodes.modify place Node.stop)[id]? = _
      rw [List.getElem?_modify, hn]
      refine congrArg some (if_congr ?_ rfl rfl)
      exact eq_comm.trans (h.leaves_remove hplace)
  | dissolve =>
    show (c.roster.modifyAll c.roster.places Node.stop).nodes[id]? = _
    rw [Roster.nodes_stopAll _ hn]
    refine congrArg some (if_congr ?_ rfl rfl)
    exact (and_iff_left (List.not_mem_nil)).symm

/-! ### Time -/

/-- The network and the clock that a node finds when all nodes are watched, one after another. -/
def foundBy (until_ : Nat) : Network → Clock → List Node → Nat → Network × Clock
  | net, clock, [], _ => (net, clock)
  | net, clock, _ :: _, 0 => (net, clock)
  | net, clock, n :: r, i + 1 =>
    let (net, after, _) := n.watch net clock until_
    foundBy until_ net { clock with taken := after.taken } r i

theorem now_foundBy (until_ : Nat) (net : Network) (clock : Clock) (nodes : List Node) (i : Nat) :
    (foundBy until_ net clock nodes i).2.now = clock.now := by
  induction nodes generalizing net clock i with
  | nil => rfl
  | cons k nodes ih =>
    cases i with
    | zero => rfl
    | succ i => exact ih _ _ i

theorem nodes_watchAll (until_ : Nat) (net : Network) (clock : Clock) {nodes : List Node} {i : Nat}
    (hn : nodes[i]? = some n) : (watchAll until_ net clock nodes).2.2[i]? =
      some (n.watch (foundBy until_ net clock nodes i).1 (foundBy until_ net clock nodes i).2 until_).2.2 := by
  induction nodes generalizing net clock i with
  | nil => cases hn
  | cons k nodes ih =>
    cases i with
    | zero =>
      cases hn
      rfl
    | succ i => exact ih _ _ hn

theorem now_watchAll (until_ : Nat) (net : Network) (clock : Clock) (nodes : List Node) :
    (watchAll until_ net clock nodes).2.1.now = clock.now := by
  induction nodes generalizing net clock with
  | nil => rfl
  | cons k nodes ih => exact ih _ _

theorem now_advance (c : Cluster) (span : Nat) : (c.advance span).clock.now = c.clock.now + span := by
  show max (watchAll (c.clock.now + span) c.net c.clock c.roster.nodes).2.1.now (c.clock.now + span) = _
  rw [now_watchAll]
  exact Nat.max_eq_right (Nat.le_add_right _ _)

/-- What happens at a node as time goes by. -/
def happened (c : Cluster) (id : Nat) : Event → List Node.Happening
  | .passed span =>
    let (net, clock) := foundBy (c.clock.now + span) c.net c.clock c.roster.nodes id
    match c.roster.nodes[id]? with
    | some n => n.happenings net clock (c.clock.now + span)
    | none => []
  | _ => []

theorem happened_passed (span : Nat) (hn : c.roster.nodes[id]? = some n) : c.happened id (.passed span) =
    n.happenings (foundBy (c.clock.now + span) c.net c.clock c.roster.nodes id).1
      (foundBy (c.clock.now + span) c.net c.clock c.roster.nodes id).2 (c.clock.now + span) := by
  unfold happened
  simp only [hn]

/-- What others notice of a node's loops at an event. -/
def deedsAt (c : Cluster) (id : Nat) : Event → List (Deed Pending)
  | .changed x =>
    if id ∈ c.roster.places ∧ id ∉ (c.change x).1.roster.places then [.stopped] else []
  | e => (c.happened id e).filterMap Node.Happening.deed?

/-- What happens at a node during some events. -/
def happenedIn (c : Cluster) (id : Nat) : List Event → List Node.Happening
  | [] => []
  | e :: es => c.happened id e ++ happenedIn (c.react e) id es

/-- What others notice of a node's loops during some events. -/
def deedsIn (c : Cluster) (id : Nat) : List Event → List (Deed Pending)
  | [] => []
  | e :: es => c.deedsAt id e ++ deedsIn (c.react e) id es

theorem now_react_eq (c : Cluster) {e : Event} (h : ∀ span, e ≠ .passed span) :
    (c.react e).clock.now = c.clock.now := by
  cases e with
  | changed x =>
    cases x with
    | enroll name url version =>
      show (c.enroll name url version).1.clock.now = c.clock.now
      rcases c.enroll_cases name url version with ⟨-, e, he⟩ | ⟨-, k, -, he⟩
      · rw [he]
      · rw [he]
        rfl
    | remove name =>
      show (c.remove name).1.clock.now = c.clock.now
      rcases c.remove_cases name with ⟨-, he⟩ | ⟨-, t, -, he⟩
      · rw [he]
      · rw [he]
    | dissolve => rfl
  | passed span => exact absurd rfl (h span)
  | _ => rfl

/-- What becomes of the node at a place. -/
inductive Becomes (c : Cluster) (id : Nat) (n : Node) : Event → Node → Prop
  | left {x : Change} (h : id ∈ c.roster.places ∧ id ∉ (c.change x).1.roster.places) :
      Becomes c id n (.changed x) n.stop
  | stayed {x : Change} (h : ¬ (id ∈ c.roster.places ∧ id ∉ (c.change x).1.roster.places)) :
      Becomes c id n (.changed x) n
  | operated {o : Operation} {limit : Nat} : Becomes c id n (.operated o limit) n
  | recorded {moment : Nat} {x : Except ClusterError String} : Becomes c id n (.checked id moment x) (n.record moment x)
  | spared {place moment : Nat} {x : Except ClusterError String} (h : place ≠ id) :
      Becomes c id n (.checked place moment x) n
  | watched {span : Nat} {net : Network} {clock : Clock} (hnow : clock.now = c.clock.now)
      (h : c.happened id (.passed span) = n.happenings net clock (c.clock.now + span)) :
      Becomes c id n (.passed span) (n.watch net clock (c.clock.now + span)).2.2
  | rewired {net : Network} : Becomes c id n (.rewired net) n

theorem becomes_react (h : c.roster.Sound) (e : Event) (hn : c.roster.nodes[id]? = some n) :
    ∃ n', (c.react e).roster.nodes[id]? = some n' ∧ Becomes c id n e n' := by
  cases e with
  | changed x =>
    refine ⟨_, nodes_change h x hn, ?_⟩
    split
    · exact .left ‹_›
    · exact .stayed ‹_›
  | operated o limit => exact ⟨n, hn, .operated⟩
  | rewired net => exact ⟨n, hn, .rewired⟩
  | checked place moment x =>
    refine ⟨if place = id then n.record moment x else n, ?_, ?_⟩
    · show (c.roster.nodes.modify place (·.record moment x))[id]? = _
      rw [List.getElem?_modify, hn]
      rfl
    · split
      · subst place
        exact .recorded
      · exact .spared ‹_›
  | passed span =>
    exact ⟨_, nodes_watchAll (c.clock.now + span) c.net c.clock hn,
      .watched (now_foundBy _ _ _ _ _) (happened_passed span hn)⟩

/-! ### Loops -/

/-- At an event a node does with its loops what loops can do. -/
theorem run_becomes {e : Event} {n' : Node} (h : Becomes c id n e n') (hinterval : 0 < n.policy.interval.nanos)
    (hregular : n.Regular) :
    Loops.Run n.policy.interval.nanos n.policy.timeout.nanos (c.clock.now, n.loops) (c.deedsAt id e)
        ((c.react e).clock.now, n'.loops) ∧ n'.Regular := by
  have still : ∀ e, (∀ span, e ≠ .passed span) → c.deedsAt id e = [] →
      Loops.Run n.policy.interval.nanos n.policy.timeout.nanos (c.clock.now, n.loops) (c.deedsAt id e)
        ((c.react e).clock.now, n.loops) := by
    intro e he hnone
    rw [hnone, c.now_react_eq he]
    exact .refl _
  cases h with
  | @left x h =>
    rw [c.now_react_eq (e := .changed x) fun _ => by simp, show c.deedsAt id (.changed x) = [.stopped] from if_pos h]
    exact ⟨Loops.run_stop n.schedule hregular, n.schedule.regular_stop _⟩
  | stayed h => exact ⟨still _ (fun _ => by simp) (if_neg h), hregular⟩
  | operated => exact ⟨still _ (fun _ => by simp) rfl, hregular⟩
  | recorded => exact ⟨still _ (fun _ => by simp) rfl, hregular⟩
  | spared h => exact ⟨still _ (fun _ => by simp) rfl, hregular⟩
  | rewired => exact ⟨still _ (fun _ => by simp) rfl, hregular⟩
  | @watched span net clock hnow h =>
    rw [show (c.react (.passed span)).clock.now = c.clock.now + span from c.now_advance span,
      show c.deedsAt id (.passed span) = _ from congrArg (List.filterMap Node.Happening.deed?) h, ← hnow]
    exact Node.run_watch hinterval hregular net (Nat.le_add_right _ _)

theorem identity_becomes {e : Event} {n' : Node} (h : Becomes c id n e n') : n'.identity = n.identity := by
  cases h with
  | watched hnow h => exact congrArg Prod.fst (Node.core_watch ..)
  | _ => rfl

theorem policy_becomes {e : Event} {n' : Node} (h : Becomes c id n e n') : n'.policy = n.policy :=
  (Node.eq_of_identity (identity_becomes h)).2.2.2

/-- Nothing that happens to a node that was made starts it. -/
theorem startFree_deedsAt (c : Cluster) (id : Nat) (e : Event) : Loops.StartFree (c.deedsAt id e) := by
  cases e with
  | changed x =>
    intro now l
    show _ ∉ if _ then [Deed.stopped] else []
    split <;> simp
  | _ => exact Node.Happening.startFree _

theorem startFree_deedsIn (c : Cluster) (id : Nat) (es : List Event) : Loops.StartFree (c.deedsIn id es) := by
  induction es generalizing c with
  | nil => exact fun now l hl => by cases hl
  | cons e es ih => exact (c.startFree_deedsAt id e).append (ih (c.react e))

/-- From one moment on a node does with its loops what loops can do. -/
theorem run_later (h : c.roster.Sound) (es : List Event) (hn : c.roster.nodes[id]? = some n)
    (hinterval : 0 < n.policy.interval.nanos) (hregular : n.Regular) :
    ∃ n', (c.run es).roster.nodes[id]? = some n' ∧ n'.Regular ∧ n'.policy = n.policy ∧
      Loops.Run n.policy.interval.nanos n.policy.timeout.nanos (c.clock.now, n.loops) (c.deedsIn id es)
        ((c.run es).clock.now, n'.loops) := by
  induction es generalizing c n with
  | nil => exact ⟨n, hn, hregular, rfl, .refl _⟩
  | cons e es ih =>
    obtain ⟨k, hk, hbecomes⟩ := becomes_react h e hn
    obtain ⟨hrun, hregular'⟩ := run_becomes hbecomes hinterval hregular
    have hpolicy := policy_becomes hbecomes
    obtain ⟨n', hn', hregular', hsame, hrest⟩ := ih (sound_react h e) hk (hpolicy ▸ hinterval) hregular'
    rw [hpolicy] at hrest
    exact ⟨n', hn', hregular', hsame.trans hpolicy, hrun.trans hrest⟩

/-- A node was there before an event, or the event is the call that enrolled it. -/
theorem nodes_react_back (c : Cluster) (e : Event) {n' : Node} (hn' : (c.react e).roster.nodes[id]? = some n') :
    (∃ n, c.roster.nodes[id]? = some n) ∨
      id = c.roster.nodes.length ∧ ∃ name url version k, e = .changed (.enroll name url version) ∧
        Node.make (if name = "" then url else name) url version c.roster.policy c.clock.moment = .ok k ∧
        n' = k.start c.clock.now ∧ (c.react e).roster = c.roster.seat c.clock.now k := by
  have hlt := (List.getElem?_eq_some_iff.mp hn').1
  have old (hlength : (c.react e).roster.nodes.length = c.roster.nodes.length) :
      ∃ n, c.roster.nodes[id]? = some n := ⟨_, List.getElem?_eq_getElem (hlength ▸ hlt)⟩
  have quiet (he : ∀ x, e ≠ .changed x) : ∃ n, c.roster.nodes[id]? = some n := by
    refine old ?_
    have hcores := congrArg List.length (c.react_quiet he).cores
    rwa [List.length_map, List.length_map] at hcores
  cases e with
  | operated o limit => exact Or.inl (quiet fun _ => by simp)
  | checked place moment x => exact Or.inl (quiet fun _ => by simp)
  | passed span => exact Or.inl (quiet fun _ => by simp)
  | rewired net => exact Or.inl (quiet fun _ => by simp)
  | changed x =>
    cases x with
    | dissolve => exact Or.inl (old (Roster.length_modifyAll c.roster))
    | remove name =>
      refine Or.inl (old ?_)
      show (c.remove name).1.roster.nodes.length = _
      rcases c.remove_cases name with ⟨-, he⟩ | ⟨-, t, ht, he⟩
      · rw [he]
      · rw [he]
        obtain ⟨place, -, rfl⟩ := Roster.remove_eq_ok ht
        exact List.length_modify Node.stop c.roster.nodes place
    | enroll name url version =>
      rcases c.enroll_cases name url version with ⟨-, x, he⟩ | ⟨-, k, hk, he⟩
      · refine Or.inl (old ?_)
        show (c.enroll name url version).1.roster.nodes.length = _
        rw [he]
      · have hroster : (c.react (.changed (.enroll name url version))).roster = c.roster.seat c.clock.now k := by
          show (c.enroll name url version).1.roster = _
          rw [he]
        rw [hroster] at hn'
        rcases Roster.nodes_seat_back c.roster c.clock.now k hn' with ⟨hid, rfl⟩ | ⟨n, hn, -, -⟩
        · exact Or.inr ⟨hid, name, url, version, k, rfl, hk, rfl, hroster⟩
        · exact Or.inl ⟨n, hn⟩

theorem run_append (c : Cluster) (es es' : List Event) : c.run (es ++ es') = (c.run es).run es' := List.foldl_append

/-- The node at a place was made by a call that enrolled it after some events. -/
structure Enrolled (c : Cluster) (id : Nat) (es : List Event) (name url version : String) (k : Node) : Prop where
  place : id = (c.run es).roster.nodes.length
  make : Node.make (if name = "" then url else name) url version (c.run es).roster.policy (c.run es).clock.moment = .ok k
  seat : ((c.run es).react (.changed (.enroll name url version))).roster =
    (c.run es).roster.seat (c.run es).clock.now k

/-- Nodes are made by calls that enroll somebody. -/
theorem exists_enrolled (policy : Policy) (common : CommonSettings) (net : Network) (es : List Event) (id : Nat) (n : Node)
    (hn : ((start policy common net).run es).roster.nodes[id]? = some n) :
    ∃ es₁ name url version k es₂, es = es₁ ++ .changed (.enroll name url version) :: es₂ ∧
      Enrolled (start policy common net) id es₁ name url version k := by
  induction es using List.reverseRecOn generalizing n with
  | nil => cases hn
  | append_singleton es e ih =>
    rw [run_snoc] at hn
    rcases nodes_react_back _ e hn with ⟨k, hk⟩ | ⟨hid, name, url, version, k, rfl, hmake, -, hseat⟩
    · obtain ⟨es₁, name, url, version, k, es₂, rfl, hmade⟩ := ih k hk
      exact ⟨es₁, name, url, version, k, es₂ ++ [e], by simp, hmade⟩
    · exact ⟨es, name, url, version, k, [], rfl, hid, hmake, hseat⟩

/-- Whatever happens to a cluster, its nodes do with their loops what loops can do that are started once. -/
theorem Enrolled.run {policy : Policy} {common : CommonSettings} {net : Network} {es : List Event}
    {name url version : String} {k : Node} (h : Enrolled (start policy common net) id es name url version k)
    (hinterval : 0 < policy.interval.nanos) (es' : List Event) :
    let c := (start policy common net).run es
    let c' := c.react (.changed (.enroll name url version))
    c'.roster.nodes[id]? = some (k.start c.clock.now) ∧ c'.clock.now = c.clock.now ∧
    ∃ n, (c'.run es').roster.nodes[id]? = some n ∧ n.Regular ∧ n.policy = policy ∧
      Loops.Run policy.interval.nanos policy.timeout.nanos
        (c.clock.now, Loops.unstarted.start c.clock.now policy.interval.nanos policy.timeout.nanos) (c'.deedsIn id es')
        ((c'.run es').clock.now, n.loops) := by
  intro c c'
  obtain ⟨hkp, hloops, -⟩ := Node.loops_make h.make
  have hkp : k.policy = policy := hkp.trans (policy_run policy common net es)
  have hnow : c'.clock.now = c.clock.now := c.now_react_eq fun _ => by simp
  have hn : c'.roster.nodes[id]? = some (k.start c.clock.now) := by
    rw [show c'.roster = c.roster.seat c.clock.now k from h.seat, h.place]
    exact Roster.nodes_seat_new c.roster c.clock.now k
  have sound := sound_react (sound_run policy common net es) (.changed (.enroll name url version))
  obtain ⟨n, hn', hregular, hpolicy, hrun⟩ := run_later sound es' hn (show 0 < k.policy.interval.nanos from hkp ▸ hinterval)
    (k.schedule.regular_start _ _ _)
  have hstart : (k.start c.clock.now).loops =
      Loops.unstarted.start c.clock.now policy.interval.nanos policy.timeout.nanos := by
    obtain ⟨client, -, hk⟩ := make_node h.make
    have hschedule : k.schedule = .stopped := by rw [hk]
    show (k.schedule.start c.clock.now k.policy.interval.nanos k.policy.timeout.nanos).loops k.policy.interval.nanos = _
    rw [hschedule, hkp]
    rfl
  refine ⟨hn, hnow, n, hn', hregular, hpolicy.trans hkp, ?_⟩
  rw [show c'.clock.now = c.clock.now from hnow, hstart, show (k.start c.clock.now).policy = policy from hkp] at hrun
  exact hrun

end Cluster

end Muster
