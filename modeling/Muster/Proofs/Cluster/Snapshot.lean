import Muster.Proofs.Cluster.Membership
import Muster.Proofs.Cluster.Sweep

/-! # Sweeps keep to their members

Whoever enrolls, leaves or gives way between the calls of a sweep, and whatever other sweeps do, it calls the nodes that
were members' when it began, and tells of them alone; and no sweep changes who belongs to the cluster. -/

namespace Muster

/-- Nodes keep their places in a cluster. -/
theorem Cluster.extends_react {c : Cluster} (h : c.roster.Sound) (e : Cluster.Event) :
    c.roster.Extends (c.react e).roster := by
  intro id n hn
  obtain ⟨k, hk, hbecomes⟩ := becomes_react h e hn
  exact ⟨k, hk, identity_becomes hbecomes⟩

/-! ### Worlds -/

/-- A cluster and the sweeps that ever began in it. -/
structure World where
  cluster : Cluster
  sweeps : List ((o : Operation) × Sweep o)

namespace World

/-- What can happen next. -/
inductive Move
  | event (e : Cluster.Event)
  /-- An operation on all members begins, by somebody who waits no longer than `limit` for each. -/
  | begin (o : Operation) (limit : Nat)
  /-- A sweep makes the call to one of its targets. -/
  | visit (sweep target : Nat)

/-- The world after something happened. An operation that is not given to members begins no sweep. -/
def move (w : World) : Move → World
  | .event e => { w with cluster := w.cluster.react e }
  | .begin o limit => if o.isSent then { w with sweeps := w.sweeps ++ [⟨o, .begin w.cluster o limit⟩] } else w
  | .visit s i =>
    match w.sweeps[s]? with
    | none => w
    | some ⟨o, sw⟩ =>
      let (net, sw) := sw.visit i w.cluster
      ⟨{ w.cluster with net := net }, w.sweeps.set s ⟨o, sw⟩⟩

/-- The world after some moves. -/
def run (w : World) (ms : List Move) : World := ms.foldl move w

/-- The changes among some moves. -/
def changes (ms : List Move) : List Change :=
  ms.filterMap fun
    | .event (.changed x) => some x
    | _ => none

variable {w : World} {o : Operation} {sw : Sweep o} {s i : Nat} {ms : List Move} {m : Move}

theorem run_append (w : World) (ms ms' : List Move) : w.run (ms ++ ms') = (w.run ms).run ms' := List.foldl_append

theorem move_visit (hs : w.sweeps[s]? = some ⟨o, sw⟩) (i : Nat) : w.move (.visit s i) =
    ⟨{ w.cluster with net := (sw.visit i w.cluster).1 }, w.sweeps.set s ⟨o, (sw.visit i w.cluster).2⟩⟩ := by
  unfold move
  simp only [hs]

theorem move_begin (h : o.isSent = true) (limit : Nat) :
    w.move (.begin o limit) = { w with sweeps := w.sweeps ++ [⟨o, .begin w.cluster o limit⟩] } := if_pos h

theorem move_begin_refused (h : o.isSent = false) (limit : Nat) : w.move (.begin o limit) = w :=
  if_neg (by rw [h]; exact Bool.false_ne_true)

/-- Sweeps change neither the roster nor the clock. -/
theorem move_quiet (w : World) (hm : ∀ e, m ≠ .event e) :
    (w.move m).cluster.roster = w.cluster.roster ∧ (w.move m).cluster.clock = w.cluster.clock := by
  cases m with
  | event e => exact absurd rfl (hm e)
  | begin o limit =>
    cases hsent : o.isSent with
    | false =>
      rw [move_begin_refused hsent]
      exact ⟨rfl, rfl⟩
    | true =>
      rw [move_begin hsent]
      exact ⟨rfl, rfl⟩
  | visit s i =>
    cases hs : w.sweeps[s]? with
    | none =>
      unfold move
      simp only [hs, and_self]
    | some x =>
      rw [move_visit hs]
      exact ⟨rfl, rfl⟩

theorem sound_move (h : w.cluster.roster.Sound) (m : Move) : (w.move m).cluster.roster.Sound := by
  by_cases hm : ∃ e, m = .event e
  · obtain ⟨e, rfl⟩ := hm
    exact Cluster.sound_react h e
  · rwa [(w.move_quiet fun e he => hm ⟨e, he⟩).1]

theorem sound_run (h : w.cluster.roster.Sound) (ms : List Move) : (w.run ms).cluster.roster.Sound := by
  induction ms generalizing w with
  | nil => exact h
  | cons m ms ih => exact ih (sound_move h m)

theorem extends_move (h : w.cluster.roster.Sound) (m : Move) : w.cluster.roster.Extends (w.move m).cluster.roster := by
  by_cases hm : ∃ e, m = .event e
  · obtain ⟨e, rfl⟩ := hm
    exact Cluster.extends_react h e
  · rw [(w.move_quiet fun e he => hm ⟨e, he⟩).1]
    exact .refl _

/-! ### Membership -/

/-- Who belongs to a cluster is decided by the changes: the sweeps could have been left out, and so could all else. -/
theorem same_run {c : Cluster} (h : w.cluster.roster.Same c.roster) (ms : List Move) :
    (w.run ms).cluster.roster.Same (c.run ((changes ms).map .changed)).roster := by
  induction ms generalizing w c with
  | nil => exact h
  | cons m ms ih =>
    have quiet (hm : (w.move m).cluster.roster.Same w.cluster.roster) :
        ((w.move m).run ms).cluster.roster.Same (c.run ((changes ms).map .changed)).roster := ih (hm.trans h)
    cases m with
    | event e =>
      cases e with
      | changed x => exact ih (w := w.move (.event (.changed x))) (c := c.react (.changed x)) (Cluster.same_react h _)
      | operated o limit => exact quiet (w.cluster.react_quiet fun _ => by simp)
      | checked place moment x => exact quiet (w.cluster.react_quiet fun _ => by simp)
      | passed span => exact quiet (w.cluster.react_quiet fun _ => by simp)
      | rewired net => exact quiet (w.cluster.react_quiet fun _ => by simp)
    | begin o limit =>
      refine quiet ?_
      rw [(w.move_quiet fun _ => by simp).1]
      exact .refl _
    | visit s i =>
      refine quiet ?_
      rw [(w.move_quiet fun _ => by simp).1]
      exact .refl _

/-! ### One sweep -/

end World

/-- A sweep that began in a cluster: its targets are the members there, and what it called at a target is the node that
the member had, whatever had become of it. -/
structure Sweep.From {o : Operation} (c₀ : Cluster) (limit : Nat) (sw : Sweep o) : Prop where
  deadline : sw.deadline = c₀.roster.policy.timeout
  begun : sw.begun = c₀.clock.now
  targets : sw.targets = c₀.roster.targets
  once : sw.called.Nodup
  visited : ∀ v ∈ sw.visits, ∃ n, c₀.roster.memberNodes[v.target]? = some n ∧ v.node.identity = n.identity ∧
    v.time ≤ sw.expiry ∧ v.reply = (o.callNode limit v.node v.net).2
  limit : sw.limit = limit

namespace Sweep

variable {o : Operation} {c₀ c : Cluster} {limit i : Nat} {sw : Sweep o}

theorem from_begin (c₀ : Cluster) (o : Operation) (limit : Nat) : (Sweep.begin c₀ o limit).From c₀ limit where
  limit := rfl
  deadline := rfl
  begun := rfl
  targets := rfl
  once := List.nodup_nil
  visited := fun _ hv => by cases hv

theorem length_targets (r : Roster) : r.targets.length = r.memberNodes.length := by
  have h := congrArg List.length r.map_fst_targets
  rwa [List.length_map, List.length_map] at h

theorem From.orderly (h : sw.From c₀ limit) : sw.Orderly := by
  refine ⟨h.once, fun i hi => ?_⟩
  obtain ⟨v, hv, rfl⟩ := List.mem_map.mp hi
  obtain ⟨n, hn, -⟩ := h.visited v hv
  rw [h.targets, length_targets]
  exact (List.getElem?_eq_some_iff.mp hn).1

/-- What stands at the place of a target is the node that its member had. -/
theorem From.of_found (h : sw.From c₀ limit) (hextends : c₀.roster.Extends c.roster) {k : Node}
    (hk : sw.found c.roster i = some k) :
    ∃ n, c₀.roster.memberNodes[i]? = some n ∧ k.identity = n.identity := by
  obtain ⟨t, ht, -⟩ := Option.bind_eq_some_iff.mp hk
  have hi := (List.getElem?_eq_some_iff.mp ht).1
  rw [h.targets, length_targets] at hi
  obtain ⟨-, k', hk', hsame⟩ := exists_found h.targets hextends (List.getElem?_eq_getElem hi)
  rw [hk] at hk'
  cases hk'
  exact ⟨_, List.getElem?_eq_getElem hi, hsame⟩

/-- A sweep is from where it began after each of its steps. -/
theorem From.visit (h : sw.From c₀ limit) (hextends : c₀.roster.Extends c.roster) (i : Nat) :
    (sw.visit i c).2.From c₀ limit := by
  rcases sw.visit_cases i c with hnone | ⟨k, hk, hnew, hintime, hcall⟩
  · rw [hnone]
    exact h
  · rw [hcall]
    refine { h with once := ?_, visited := fun v hv => ?_ }
    · show (List.map _ (sw.visits ++ [_])).Nodup
      rw [List.map_append]
      exact h.once.append (List.nodup_singleton i) (by simpa [called] using hnew)
    · rcases List.mem_append.mp hv with hv | hv
      · exact h.visited v hv
      · obtain rfl := List.mem_singleton.mp hv
        obtain ⟨n, hn, hsame⟩ := h.of_found hextends hk
        exact ⟨n, hn, hsame, hintime, by rw [← h.limit]⟩

/-- If all targets were called, in order and when the sweep began, what is told is what the operation tells. -/
theorem From.told_eq (h : sw.From c₀ limit) (hcalled : sw.called = List.range' 0 c₀.roster.memberNodes.length)
    (hatonce : ∀ v ∈ sw.visits, v.time = c₀.clock.now) :
    sw.told = (c₀.roster.memberNodes.map Node.name).zip
      ((sw.visits.map (·.reply)).map (Reply.told c₀.roster.policy.timeout)) := by
  have hnames : sw.told.map (·.1) = c₀.roster.memberNodes.map Node.name := by
    rw [sw.map_fst_told, h.targets, c₀.roster.map_fst_targets]
  have hlength : sw.visits.length = c₀.roster.memberNodes.length := by
    have hlength := congrArg List.length hcalled
    rwa [called, List.length_map, List.length_range'] at hlength
  refine List.ext_getElem? fun i => ?_
  rw [List.zip_eq_zipWith, List.getElem?_zipWith, List.getElem?_map, List.getElem?_map, List.getElem?_map]
  cases hn : c₀.roster.memberNodes[i]? with
  | none =>
    have hlen := congrArg List.length hnames
    rw [List.length_map, List.length_map] at hlen
    rw [List.getElem?_eq_none_iff.mpr (hlen ▸ List.getElem?_eq_none_iff.mp hn)]
    rfl
  | some n =>
    have hi := (List.getElem?_eq_some_iff.mp hn).1
    obtain ⟨v, hv⟩ : ∃ v, sw.visits[i]? = some v := ⟨_, List.getElem?_eq_getElem (hlength ▸ hi)⟩
    have htarget : v.target = i := by
      have hi' := congrArg (·[i]?) hcalled
      simpa [called, hv, List.getElem?_range', hi] using hi'
    obtain ⟨⟨t, ht, hname⟩, -⟩ := exists_found h.targets (.refl _) hn
    have htold := h.orderly.told_called (List.mem_of_getElem? hv) (htarget.symm ▸ ht)
    rw [htarget] at htold
    rw [htold, hv, hname]
    have hreply : sw.toldOf v = v.reply.told c₀.roster.policy.timeout := by
      rw [toldOf, Reply.told, expiry, hatonce v (List.mem_of_getElem? hv), h.begun, h.deadline]
      simp only [Nat.add_lt_add_iff_left]
    rw [hreply]
    rfl

end Sweep

namespace World

variable {w : World} {o : Operation} {sw : Sweep o} {c₀ : Cluster} {s limit : Nat}

/-- Whatever happens next, a sweep is from where it began. -/
theorem from_move (hs : w.sweeps[s]? = some ⟨o, sw⟩) (hfrom : sw.From c₀ limit)
    (hextends : c₀.roster.Extends w.cluster.roster) (m : Move) :
    ∃ sw' : Sweep o, (w.move m).sweeps[s]? = some ⟨o, sw'⟩ ∧ sw'.From c₀ limit := by
  have hlt := (List.getElem?_eq_some_iff.mp hs).1
  cases m with
  | event e => exact ⟨sw, hs, hfrom⟩
  | begin o' limit' =>
    refine ⟨sw, ?_, hfrom⟩
    cases hsent : o'.isSent with
    | false => rwa [move_begin_refused hsent]
    | true =>
      rw [move_begin hsent]
      exact (List.getElem?_append_left hlt).trans hs
  | visit s' i =>
    cases hs' : w.sweeps[s']? with
    | none =>
      refine ⟨sw, ?_, hfrom⟩
      unfold move
      simp only [hs', hs]
    | some x =>
      rw [move_visit hs']
      -- The call is one of this sweep, or another sweep's, which leaves this one as it is.
      by_cases hsame : s' = s
      · subst hsame
        rw [hs] at hs'
        cases hs'
        exact ⟨_, List.getElem?_set_self hlt, hfrom.visit hextends i⟩
      · exact ⟨sw, (List.getElem?_set_ne hsame).trans hs, hfrom⟩

theorem from_run (hsound : w.cluster.roster.Sound) (hs : w.sweeps[s]? = some ⟨o, sw⟩) (hfrom : sw.From c₀ limit)
    (hextends : c₀.roster.Extends w.cluster.roster) (ms : List Move) :
    ∃ sw' : Sweep o, (w.run ms).sweeps[s]? = some ⟨o, sw'⟩ ∧ sw'.From c₀ limit ∧
      c₀.roster.Extends (w.run ms).cluster.roster := by
  induction ms generalizing w sw with
  | nil => exact ⟨sw, hs, hfrom, hextends⟩
  | cons m ms ih =>
    obtain ⟨sw', hs', hfrom'⟩ := from_move hs hfrom hextends m
    exact ih (sound_move hsound m) hs' hfrom' (hextends.trans (extends_move hsound m))

/-! ### A sweep that is left alone -/

/-- If nothing happens between its calls, a sweep makes those of the operation. -/
theorem run_visits {k : Nat} {nodes : List Node} (hs : w.sweeps[s]? = some ⟨o, sw⟩)
    (hintime : w.cluster.clock.now ≤ sw.expiry) (hcalled : sw.called = List.range k)
    (hfound : ∀ j n, nodes[j]? = some n → sw.found w.cluster.roster (k + j) = some n) :
    let w' := w.run ((List.range' k nodes.length).map (.visit s))
    ∃ visits : List (Visit o), w'.sweeps[s]? = some ⟨o, { sw with visits := sw.visits ++ visits }⟩ ∧
      w'.cluster.net = (callEach (o.callNode sw.limit) w.cluster.net nodes).1 ∧
      visits.map (·.reply) = (callEach (o.callNode sw.limit) w.cluster.net nodes).2 ∧
      visits.map (·.target) = List.range' k nodes.length ∧ ∀ v ∈ visits, v.time = w.cluster.clock.now := by
  induction nodes generalizing w sw k with
  | nil => exact ⟨[], by rw [List.append_nil]; exact hs, rfl, rfl, rfl, fun v hv => by cases hv⟩
  | cons n nodes ih =>
    have hnew : k ∉ sw.called := by
      rw [hcalled]
      exact List.not_mem_range_self
    -- The first call leaves a sweep of which the rest is left to call, in the network that the call has made.
    let v : Visit o := ⟨k, w.cluster.clock.now, n, w.cluster.net, (o.callNode sw.limit n w.cluster.net).2⟩
    let sw₁ : Sweep o := { sw with visits := sw.visits ++ [v] }
    have hmove : w.move (.visit s k) =
        ⟨{ w.cluster with net := (o.callNode sw.limit n w.cluster.net).1 }, w.sweeps.set s ⟨o, sw₁⟩⟩ := by
      have hn : sw.found w.cluster.roster k = some n := hfound 0 n rfl
      rw [move_visit hs, Sweep.visit_call hn hnew hintime]
    have hnet₁ : (w.move (.visit s k)).cluster.net = (o.callNode sw.limit n w.cluster.net).1 := by rw [hmove]
    have htime₁ : (w.move (.visit s k)).cluster.clock = w.cluster.clock := by rw [hmove]
    have hcalled₁ : sw₁.called = List.range (k + 1) := by
      show (sw.visits ++ [v]).map (·.target) = _
      rw [List.map_append, List.range_succ, ← hcalled]
      rfl
    have hs₁ : (w.move (.visit s k)).sweeps[s]? = some ⟨o, sw₁⟩ := by
      rw [hmove]
      exact List.getElem?_set_self (List.getElem?_eq_some_iff.mp hs).1
    have hfound₁ (j : Nat) (m : Node) (hm : nodes[j]? = some m) :
        sw₁.found (w.move (.visit s k)).cluster.roster (k + 1 + j) = some m := by
      rw [hmove, Nat.add_assoc, Nat.add_comm 1]
      exact hfound (j + 1) m hm
    obtain ⟨visits, hs', hnet, hreplies, htargets, htimes⟩ := ih hs₁ (by rw [htime₁]; exact hintime) hcalled₁ hfound₁
    have hvisits : sw₁.visits ++ visits = sw.visits ++ v :: visits := by simp [sw₁]
    rw [hvisits] at hs'
    rw [hnet₁] at hnet hreplies
    rw [htime₁] at htimes
    refine ⟨v :: visits, hs', hnet, congrArg (v.reply :: ·) hreplies, congrArg (k :: ·) htargets, fun x hx => ?_⟩
    rcases List.mem_cons.mp hx with rfl | hx
    · rfl
    · exact htimes x hx

/-- A sweep that nothing comes between makes of the network what its operation does, and tells what that is answered
from. -/
theorem alone_of_begin {w : World} (hsound : w.cluster.roster.Sound) (hsent : o.isSent = true) (limit : Nat) :
    let r := w.cluster.roster
    let w' := (w.move (.begin o limit)).run ((List.range' 0 r.memberNodes.length).map (.visit w.sweeps.length))
    ∃ sw : Sweep o, w'.sweeps[w.sweeps.length]? = some ⟨o, sw⟩ ∧
      w'.cluster.net = (r.carryOut w.cluster.net limit o).1 ∧
      o.resultOf sw.told = (r.carryOut w.cluster.net limit o).2.2 := by
  intro r w'
  have hbegin := move_begin (w := w) hsent limit
  have hs : (w.move (.begin o limit)).sweeps[w.sweeps.length]? = some ⟨o, .begin w.cluster o limit⟩ := by
    rw [hbegin]
    simp
  have hcluster : (w.move (.begin o limit)).cluster = w.cluster := by rw [hbegin]
  have hfound (j : Nat) (n : Node) (hn : r.memberNodes[j]? = some n) :
      (Sweep.begin w.cluster o limit).found (w.move (.begin o limit)).cluster.roster (0 + j) = some n := by
    obtain ⟨t, ht, -, hnode⟩ := r.targets_of_memberNodes hn
    rw [Nat.zero_add, hcluster]
    exact Option.bind_eq_some_iff.mpr ⟨t, ht, hnode⟩
  obtain ⟨visits, hs', hnet, hreplies, htargets, htimes⟩ := run_visits hs
    (by rw [hcluster]; exact Nat.le_add_right _ _) (k := 0) rfl hfound
  obtain ⟨sw', hsame, hfrom, -⟩ := from_run (sound_move hsound (.begin o limit)) hs (Sweep.from_begin w.cluster o limit)
    (extends_move hsound _) ((List.range' 0 r.memberNodes.length).map (.visit w.sweeps.length))
  rw [hs'] at hsame
  cases hsame
  rw [hcluster] at hnet hreplies htimes
  have hcalls : r.calls w.cluster.net limit o = r.fanOut w.cluster.net (o.callNode limit) := if_pos hsent
  have htold := (hfrom.told_eq htargets htimes).trans
    (congrArg (fun replies => (r.memberNodes.map Node.name).zip (replies.map (Reply.told r.policy.timeout))) hreplies)
  refine ⟨_, hs', ?_, ?_⟩
  · rw [r.carryOut_eq, hcalls]
    exact hnet
  · rw [r.carryOut_eq, hcalls, told_fanOut, htold]
    rfl

/-! ### Isolation -/

/-- A sweep that began in a cluster keeps to those who were members there. -/
structure Isolated (c₀ : Cluster) (limit s : Nat) (w : World) (sw : Sweep o) : Prop where
  /-- Exactly they are told of, each once, in order, under the names that they had. -/
  names : sw.told.map (·.1) = c₀.roster.memberNodes.map Node.name
  distinct : (sw.told.map (·.1)).Nodup
  /-- Each is called at most once. -/
  once : sw.called.Nodup
  /-- What is called at a member's place is its own node, with the address that it had, and what is told of the member is
  what comes of that call. -/
  told : ∀ v ∈ sw.visits, ∃ n, c₀.roster.memberNodes[v.target]? = some n ∧ v.node.identity = n.identity ∧
    Client.make "node" n.url c₀.roster.policy.secret = .ok v.node.client ∧ o.Contacts limit v.node v.net ∧
    sw.told[v.target]? = some (n.name,
      if v.time + (o.callNode limit v.node v.net).2.after < c₀.clock.now + c₀.roster.policy.timeout.nanos
        then (o.callNode limit v.node v.net).2.outcome else .error (.timeout c₀.roster.policy.timeout))
  /-- A member that was not called is told to have timed out. Until then it is called whenever its turn comes, whether it
  is a member's still or not, as the node that it is by then. -/
  awaited : ∀ i n, c₀.roster.memberNodes[i]? = some n → i ∉ sw.called →
    sw.told[i]? = some (n.name, .error (.timeout c₀.roster.policy.timeout)) ∧
    (w.cluster.clock.now ≤ c₀.clock.now + c₀.roster.policy.timeout.nanos →
      ∃ k ∈ w.cluster.roster.nodes, k.identity = n.identity ∧
        (w.move (.visit s i)).cluster.net = (o.callNode limit k w.cluster.net).1 ∧
        (w.move (.visit s i)).sweeps[s]? = some ⟨o, { sw with
          visits := sw.visits ++ [⟨i, w.cluster.clock.now, k, w.cluster.net, (o.callNode limit k w.cluster.net).2⟩] }⟩)
  /-- Nobody else is called. -/
  silent : ∀ i, i ∈ sw.called ∨ c₀.roster.memberNodes.length ≤ i ∨
    c₀.clock.now + c₀.roster.policy.timeout.nanos < w.cluster.clock.now →
      (w.move (.visit s i)).cluster.net = w.cluster.net

theorem isolated_of_from (hsound : c₀.roster.Sound) (hsent : o.isSent = true) (hs : w.sweeps[s]? = some ⟨o, sw⟩)
    (hfrom : sw.From c₀ limit) (hextends : c₀.roster.Extends w.cluster.roster) : Isolated c₀ limit s w sw := by
  have hnames : sw.told.map (·.1) = c₀.roster.memberNodes.map Node.name := by
    rw [sw.map_fst_told, hfrom.targets, c₀.roster.map_fst_targets]
  have hexpiry : sw.expiry = c₀.clock.now + c₀.roster.policy.timeout.nanos := by
    rw [Sweep.expiry, hfrom.begun, hfrom.deadline]
  refine ⟨hnames, hnames ▸ hsound.nodup_name, hfrom.once, fun v hv => ?_, fun i n hn hnew => ⟨?_, fun hintime => ?_⟩,
    fun i hi => ?_⟩
  · obtain ⟨n, hn, hsame, -, hreply⟩ := hfrom.visited v hv
    obtain ⟨⟨t, ht, hname⟩, -⟩ := Sweep.exists_found hfrom.targets (.refl _) hn
    have hmade := (hsound.made n (Roster.mem_nodes_of_mem_memberNodes (List.mem_of_getElem? hn))).2
    have htold := hfrom.orderly.told_called hv ht
    rw [Sweep.toldOf, hexpiry, hreply, hname, hfrom.deadline] at htold
    refine ⟨n, hn, hsame, ?_, Operation.contacts hsent limit v.node v.net, htold⟩
    rw [(Node.eq_of_identity hsame).2.2.1]
    exact hmade
  · obtain ⟨⟨t, ht, hname⟩, -⟩ := Sweep.exists_found hfrom.targets (.refl _) hn
    rw [hfrom.orderly.told_uncalled ht hnew, hname, hfrom.deadline]
  · obtain ⟨-, k, hk, hsame⟩ := Sweep.exists_found hfrom.targets hextends hn
    obtain ⟨t, -, hnode⟩ := Option.bind_eq_some_iff.mp hk
    have hmove := move_visit hs i
    rw [Sweep.visit_call hk hnew (hexpiry ▸ hintime)] at hmove
    obtain rfl := hfrom.limit
    refine ⟨k, List.mem_of_getElem? hnode, hsame, by rw [hmove], ?_⟩
    rw [hmove]
    exact List.getElem?_set_self (List.getElem?_eq_some_iff.mp hs).1
  · rw [move_visit hs]
    rcases sw.visit_cases i w.cluster with hnone | ⟨k, hk, hnew, hintime, -⟩
    · rw [hnone]
    · obtain ⟨n, hn, -⟩ := hfrom.of_found hextends hk
      rcases hi with hcalled | houtside | hlate
      · exact absurd hcalled hnew
      · exact absurd (List.getElem?_eq_some_iff.mp hn).1 (Nat.not_lt.mpr houtside)
      · exact absurd hintime (hexpiry ▸ Nat.not_le.mpr hlate)

/-- A sweep keeps to its members, whatever happens before it begins and afterwards: changes, checks and time, in any order
with its own calls and those of any other sweeps. No sweep changes who belongs to the cluster: afterwards its members are
those that the changes alone would have made. And a sweep that nothing comes between is the operation that it is for. -/
theorem sweep_isolated (policy : Policy) (common : CommonSettings) (net₀ : Network) (before : List Move) (o : Operation)
    (limit : Nat) (hsent : o.isSent = true) :
    let w₀ := (World.mk (.start policy common net₀) []).run before
    let w₁ := w₀.move (.begin o limit)
    let s := w₀.sweeps.length
    let r := w₀.cluster.roster
    (∀ after, (∃ sw : Sweep o, (w₁.run after).sweeps[s]? = some ⟨o, sw⟩ ∧
        Isolated w₀.cluster limit s (w₁.run after) sw) ∧
      (w₁.run after).cluster.roster.Same
        ((Cluster.start policy common net₀).run ((changes (before ++ after)).map .changed)).roster) ∧
    ∃ sw : Sweep o,
      let w := w₁.run ((List.range' 0 r.memberNodes.length).map (.visit s))
      w.sweeps[s]? = some ⟨o, sw⟩ ∧ w.cluster.net = (r.carryOut w₀.cluster.net limit o).1 ∧
        o.resultOf sw.told = (r.carryOut w₀.cluster.net limit o).2.2 := by
  intro w₀ w₁ s r
  have hsound : w₀.cluster.roster.Sound := sound_run (Roster.empty_sound policy common) before
  have hbegin : w₁ = { w₀ with sweeps := w₀.sweeps ++ [⟨o, .begin w₀.cluster o limit⟩] } := move_begin hsent limit
  have hs : w₁.sweeps[s]? = some ⟨o, .begin w₀.cluster o limit⟩ := by
    rw [hbegin]
    exact List.getElem?_concat_length
  refine ⟨fun after => ⟨?_, ?_⟩, alone_of_begin hsound hsent limit⟩
  · obtain ⟨sw, hs', hfrom, hextends⟩ := from_run (sound_move hsound (.begin o limit)) hs
      (Sweep.from_begin w₀.cluster o limit) (extends_move hsound _) after
    exact ⟨sw, hs', isolated_of_from hsound hsent hs' hfrom hextends⟩
  · have hw₁ : w₁.cluster.roster.Same ((Cluster.start policy common net₀).run ((changes before).map .changed)).roster := by
      rw [hbegin]
      exact same_run (.refl _) before
    have hsame := same_run hw₁ after
    rwa [← Cluster.run_append, ← List.map_append, changes, changes, ← List.filterMap_append] at hsame

/-- While a data source is loaded, one that it has yet to be loaded at is removed, and somebody else enrolls. -/
def whileLoading : List Move :=
  [.visit 0 0, .event (.changed (.remove "two")), .event (.changed (.enroll "four" "http://[::1]:84/" "v1")), .visit 0 1,
    .visit 0 2]

/-- The data source is loaded where it was to be loaded, and nowhere else. -/
theorem sweep_isolated_removed :
    (Operation.mutation (.load "sales")).isSent = true ∧
    let w := ((World.mk (.start Cluster.hastyPolicy Cluster.blankSettings Cluster.twoHosts) []).run
      (Cluster.threeWorkers.map .event ++ [.begin (.mutation (.load "sales")) 2000])).run whileLoading
    w.cluster.net.arrived.map (·.server) = ["[::1]:81", "[::1]:82"] ∧
    w.cluster.roster.memberNodes.map Node.name = ["one", "three", "four"] ∧
    ∃ sw : Sweep (.mutation (.load "sales")), w.sweeps[0]? = some ⟨_, sw⟩ ∧
      sw.told.map (·.1) = ["one", "two", "three"] := by
  have hsent : (Operation.mutation (.load "sales")).isSent = true := rfl
  obtain ⟨hall, -⟩ := sweep_isolated Cluster.hastyPolicy Cluster.blankSettings Cluster.twoHosts
    (Cluster.threeWorkers.map .event) (.mutation (.load "sales")) 2000 hsent
  obtain ⟨⟨sw, hs, hisolated⟩, hsame⟩ := hall whileLoading
  have hmembers : ((Cluster.start Cluster.hastyPolicy Cluster.blankSettings Cluster.twoHosts).run
      ((changes (Cluster.threeWorkers.map .event ++ whileLoading)).map .changed)).roster.memberNodes.map Node.name =
        ["one", "three", "four"] := by decide +kernel
  refine ⟨hsent, by decide +kernel, ?_, sw, hs, hisolated.names.trans (by decide +kernel)⟩
  exact (Roster.map_of_map hsame.memberNodes fun k => k.1.1).trans hmembers

end World

end Muster
