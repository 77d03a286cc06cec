import Mathlib.Data.List.Nodup
import Muster.Proofs.Node.Identity
import Muster.Roster.Basic

/-! # Members and their nodes

What enrolling, removing and dissolving do to the members of a roster and to the nodes that were made for it. A
roster is sound if each member is filed under the name of its own node, no two members share a name or an address,
and exactly the nodes of members are checked. Every operation keeps a sound roster sound. -/

namespace Muster.Roster

/-! ### Lists -/

/-- Leaving keys out before they are looked up is leaving out what is found under them. -/
theorem filterMap_filter_eq {α β : Type} {f : α → Option β} {p : α → Bool} {q : β → Bool} :
    ∀ {l : List α}, (∀ a ∈ l, ∀ b, f a = some b → p a = q b) → (l.filter p).filterMap f = (l.filterMap f).filter q
  | [], _ => rfl
  | a :: l, h => by
    have ih := filterMap_filter_eq (l := l) fun x hx => h x (List.mem_cons_of_mem a hx)
    cases hf : f a with
    | none =>
      rw [List.filterMap_cons_none hf, ← ih, List.filter_cons]
      split
      · rw [List.filterMap_cons_none hf]
      · rfl
    | some b =>
      have hp := h a List.mem_cons_self b hf
      rw [List.filterMap_cons_some hf, List.filter_cons, List.filter_cons, hp]
      split
      · rw [List.filterMap_cons_some hf, ih]
      · exact ih

/-- What is equal in a list of things is equal in all that is made of it. -/
theorem map_of_map {α β γ δ : Type} {f : α → γ} {g : β → γ} {l : List α} {k : List β} (h : l.map f = k.map g)
    (p : γ → δ) : l.map (fun a => p (f a)) = k.map fun b => p (g b) := by
  have hp := congrArg (List.map p) h
  rwa [List.map_map, List.map_map] at hp

/-! ### Changing nodes -/

section Nodes
variable {f : Node → Node} {ids : List Nat} {id : Nat}

@[simp] theorem policy_modifyAll (r : Roster) : (r.modifyAll ids f).policy = r.policy := by
  induction ids generalizing r with
  | nil => rfl
  | cons a ids ih => exact ih (r.modify a f)

@[simp] theorem length_modifyAll (r : Roster) : (r.modifyAll ids f).nodes.length = r.nodes.length := by
  induction ids generalizing r with
  | nil => rfl
  | cons a ids ih => exact (ih (r.modify a f)).trans (List.length_modify f r.nodes a)

theorem nodes_modifyAll_of_not_mem (r : Roster) (h : id ∉ ids) :
    (r.modifyAll ids f).nodes[id]? = r.nodes[id]? := by
  induction ids generalizing r with
  | nil => rfl
  | cons a ids ih =>
    obtain ⟨ha, hids⟩ := List.ne_and_not_mem_of_not_mem_cons h
    exact (ih (r.modify a f) hids).trans (List.getElem?_modify_ne f r.nodes (Ne.symm ha))

/-- Nodes are the same nodes after a change that makes no other node of any. -/
theorem identity_modifyAll (r : Roster) (ids : List Nat) (hf : ∀ n, (f n).identity = n.identity) :
    (r.modifyAll ids f).nodes.map Node.identity = r.nodes.map Node.identity := by
  induction ids generalizing r with
  | nil => rfl
  | cons a ids ih =>
    refine (ih (r.modify a f)).trans (List.ext_getElem? fun i => ?_)
    by_cases hi : a = i
    · subst hi
      cases h : r.nodes[a]? <;> simp [modify, h, hf]
    · simp [modify, hi]

theorem isRunning_stopAll (r : Roster) {n : Node} (h : id ∈ ids)
    (hn : (r.modifyAll ids Node.stop).nodes[id]? = some n) : n.isRunning = false := by
  induction ids generalizing r with
  | nil => cases h
  | cons a ids ih =>
    by_cases hid : id ∈ ids
    · exact ih (r.modify a Node.stop) hid hn
    · obtain rfl : id = a := (List.mem_cons.mp h).resolve_right hid
      have hn' : (r.nodes.modify id Node.stop)[id]? = some n :=
        (nodes_modifyAll_of_not_mem (r.modify id Node.stop) hid).symm.trans hn
      obtain ⟨k, -, rfl⟩ := Option.map_eq_some_iff.mp ((List.getElem?_modify_eq Node.stop id r.nodes).symm.trans hn')
      rfl

end Nodes

/-! ### Seating and removing -/

variable {r : Roster} {n : Node}

theorem nodes_seat_new (r : Roster) (now : Nat) (n : Node) :
    (r.seat now n).nodes[r.nodes.length]? = some (n.start now) := by
  simp [seat]

/-- A node of a roster in which a worker was seated is the new one, or one from before, perhaps stopped. -/
theorem nodes_seat_back (r : Roster) (now : Nat) (n : Node) {id : Nat} {k : Node}
    (hk : (r.seat now n).nodes[id]? = some k) :
    (id = r.nodes.length ∧ k = n.start now) ∨
      ∃ k₀, r.nodes[id]? = some k₀ ∧ k.identity = k₀.identity ∧
        (k = k₀ ∨ id ∈ (r.members.filter (r.givesWay n.name n.url)).map (·.2) ∧ k.isRunning = false) := by
  rw [seat, List.getElem?_append, length_modifyAll] at hk
  split at hk
  · right
    have hid := congrArg (·[id]?)
      (identity_modifyAll r ((r.members.filter (r.givesWay n.name n.url)).map (·.2)) Node.identity_stop)
    simp only [List.getElem?_map, hk, Option.map_some] at hid
    obtain ⟨k₀, hk₀, he⟩ := Option.map_eq_some_iff.mp hid.symm
    refine ⟨k₀, hk₀, he.symm, ?_⟩
    by_cases hold : id ∈ (r.members.filter (r.givesWay n.name n.url)).map (·.2)
    · exact Or.inr ⟨hold, isRunning_stopAll r hold hk⟩
    · rw [nodes_modifyAll_of_not_mem r hold, hk₀] at hk
      exact Or.inl (Option.some.inj hk).symm
  · rename_i hlt
    rw [List.getElem?_singleton] at hk
    split at hk
    · exact Or.inl ⟨by omega, (Option.some.inj hk).symm⟩
    · cases hk

theorem mem_members_seat {now : Nat} {m : String × Nat} (hm : m ∈ (r.seat now n).members) :
    (m ∈ r.members ∧ r.givesWay n.name n.url m = false) ∨ m = (n.name, r.nodes.length) := by
  rcases List.mem_append.mp hm with hm | hm
  · obtain ⟨hm, hstay⟩ := List.mem_filter.mp hm
    exact Or.inl ⟨hm, by simpa using hstay⟩
  · exact Or.inr (List.mem_singleton.mp hm)

theorem find?_eq_some {name : String} {id : Nat} (hid : r.find? name = some id) : (name, id) ∈ r.members := by
  obtain ⟨l₁, l₂, hl, -⟩ := List.lookup_eq_some_iff.mp hid
  rw [hl]
  exact List.mem_append_right l₁ List.mem_cons_self

theorem find?_eq_none_iff {name : String} : r.find? name = none ↔ name ∉ r.members.map (·.1) := by
  rw [find?, List.lookup_eq_none_iff]
  simp only [List.mem_map, not_exists, not_and, bne_iff_ne]
  exact ⟨fun hne m hm he => hne m hm he.symm, fun hne m hm he => hne m hm he.symm⟩

theorem remove_eq_ok {t : Roster} {name : String} (ht : r.remove name = .ok t) :
    ∃ id, r.find? name = some id ∧ t = { r.modify id Node.stop with members := r.members.filter (·.1 ≠ name) } := by
  unfold remove at ht
  split at ht
  · cases ht
  · exact ⟨_, ‹_›, (Except.ok.inj ht).symm⟩

/-! ### Sound rosters -/

/-- A roster holds together. -/
structure Sound (r : Roster) : Prop where
  /-- Every member is filed under the name of its node. -/
  filed : ∀ m ∈ r.members, ∃ n, r.nodes[m.2]? = some n ∧ n.name = m.1
  /-- No two members have the same name. -/
  names : (r.members.map (·.1)).Nodup
  named : ∀ m ∈ r.members, m.1 ≠ ""
  /-- No two members have the same address. -/
  urls : (r.memberNodes.map (·.url)).Nodup
  located : ∀ n ∈ r.memberNodes, n.url ≠ ""
  /-- Members are checked. -/
  running : ∀ n ∈ r.memberNodes, n.isRunning = true
  /-- A node that was made and is no member's is not checked. -/
  retired : ∀ id n, r.nodes[id]? = some n → id ∉ r.members.map (·.2) → n.isRunning = false
  /-- Every node was made by the roster's policy, with a client of its own address. -/
  made : ∀ n ∈ r.nodes, n.policy = r.policy ∧ Client.make "node" n.url r.policy.secret = .ok n.client

theorem mem_memberNodes : n ∈ r.memberNodes ↔ ∃ m ∈ r.members, r.nodes[m.2]? = some n := List.mem_filterMap

theorem mem_nodes_of_mem_memberNodes (h : n ∈ r.memberNodes) : n ∈ r.nodes := by
  obtain ⟨m, -, hm⟩ := mem_memberNodes.mp h
  exact List.mem_of_getElem? hm

/-- Two rosters differ in nothing but what is known of their nodes. -/
structure Same (t r : Roster) : Prop where
  policy : t.policy = r.policy
  members : t.members = r.members
  cores : t.nodes.map Node.core = r.nodes.map Node.core

protected theorem Same.refl (r : Roster) : r.Same r := ⟨rfl, rfl, rfl⟩

/-- Members whose nodes stay the same are the same members. -/
theorem Same.memberNodes {t : Roster} (h : t.Same r) : t.memberNodes.map Node.core = r.memberNodes.map Node.core := by
  rw [Roster.memberNodes, Roster.memberNodes, List.map_filterMap, List.map_filterMap, h.members]
  refine List.filterMap_congr fun m _ => ?_
  rw [← List.getElem?_map, ← List.getElem?_map, h.cores]

theorem empty_sound (policy : Policy) (common : CommonSettings) : (empty policy common).Sound where
  filed := fun _ hm => by cases hm
  names := List.nodup_nil
  named := fun _ hm => by cases hm
  urls := List.nodup_nil
  located := fun _ hn => by cases hn
  running := fun _ hn => by cases hn
  retired := fun _ _ hn => by simp [empty] at hn
  made := fun _ hn => by cases hn

namespace Sound

/-- The members' nodes have the names under which the members are filed. -/
theorem map_name (h : r.Sound) : r.memberNodes.map Node.name = r.members.map (·.1) := by
  have found : ∀ l : List (String × Nat), (∀ m ∈ l, ∃ n, r.nodes[m.2]? = some n ∧ n.name = m.1) →
      (l.filterMap fun m => r.nodes[m.2]?).map Node.name = l.map (·.1) := by
    intro l hl
    induction l with
    | nil => rfl
    | cons m l ih =>
      obtain ⟨n, hn, hname⟩ := hl m List.mem_cons_self
      have ih := ih fun x hx => hl x (List.mem_cons_of_mem m hx)
      simp only [List.filterMap_cons, hn, List.map_cons, hname, ih]
  exact found r.members h.filed

theorem nodup_name (h : r.Sound) : (r.memberNodes.map Node.name).Nodup := h.map_name ▸ h.names

theorem made_member (h : r.Sound) (hn : n ∈ r.memberNodes) :
    n.policy = r.policy ∧ Client.make "node" n.url r.policy.secret = .ok n.client :=
  h.made n (mem_nodes_of_mem_memberNodes hn)

theorem eq_of_place (h : r.Sound) {a b : String × Nat} (ha : a ∈ r.members) (hb : b ∈ r.members)
    (hp : a.2 = b.2) : a = b := by
  obtain ⟨n, hn, hna⟩ := h.filed a ha
  obtain ⟨k, hk, hkb⟩ := h.filed b hb
  rw [hp, hk] at hn
  cases hn
  exact Prod.ext (hna.symm.trans hkb) hp

theorem eq_of_name (h : r.Sound) {a b : String × Nat} (ha : a ∈ r.members) (hb : b ∈ r.members)
    (hn : a.1 = b.1) : a = b :=
  List.inj_on_of_nodup_map h.names ha hb hn

theorem lt_length (h : r.Sound) {m : String × Nat} (hm : m ∈ r.members) : m.2 < r.nodes.length := by
  obtain ⟨n, hn, -⟩ := h.filed m hm
  exact (List.getElem?_eq_some_iff.mp hn).1

/-- What matters of the nodes of a roster is which nodes they are and whether they are checked. -/
theorem of_same {t : Roster} (h : r.Sound) (hs : t.Same r) : t.Sound := by
  obtain ⟨hp, hm, hn⟩ := hs
  -- Each node of one roster has its counterpart at the same place of the other.
  have same : ∀ id, (t.nodes[id]?).map Node.core = (r.nodes[id]?).map Node.core := fun id => by
    rw [← List.getElem?_map, ← List.getElem?_map, hn]
  have back : ∀ (id : Nat) (n : Node), t.nodes[id]? = some n → ∃ k : Node, r.nodes[id]? = some k ∧ k.core = n.core := by
    intro id n hid
    exact Option.map_eq_some_iff.mp ((same id).symm.trans (by rw [hid]; rfl))
  have forth : ∀ (id : Nat) (n : Node), r.nodes[id]? = some n →
      ∃ k : Node, t.nodes[id]? = some k ∧ k.core = n.core := by
    intro id n hid
    exact Option.map_eq_some_iff.mp ((same id).trans (by rw [hid]; rfl))
  have members : t.memberNodes.map Node.core = r.memberNodes.map Node.core :=
    Same.memberNodes ⟨hp, hm, hn⟩
  have mem : ∀ n ∈ t.memberNodes, ∃ k ∈ r.memberNodes, k.core = n.core := by
    intro n hnt
    have hcore := List.mem_map_of_mem (f := Node.core) hnt
    rw [members] at hcore
    exact List.mem_map.mp hcore
  have urls : t.memberNodes.map (·.url) = r.memberNodes.map (·.url) := map_of_map members fun x => x.1.2.1
  refine ⟨fun m hmt => ?_, hm ▸ h.names, hm ▸ h.named, urls ▸ h.urls, fun n hnt => ?_, fun n hnt => ?_,
    fun id n hid hout => ?_, fun n hnt => ?_⟩
  · obtain ⟨n, hid, hname⟩ := h.filed m (hm ▸ hmt)
    obtain ⟨k, hk, he⟩ := forth m.2 n hid
    exact ⟨k, hk, (Node.eq_of_core he).1.trans hname⟩
  · obtain ⟨k, hk, he⟩ := mem n hnt
    exact (Node.eq_of_core he).2.1 ▸ h.located k hk
  · obtain ⟨k, hk, he⟩ := mem n hnt
    exact (Node.eq_of_core he).2.2.2.2 ▸ h.running k hk
  · obtain ⟨k, hk, he⟩ := back id n hid
    exact (Node.eq_of_core he).2.2.2.2 ▸ h.retired id k hk (hm ▸ hout)
  · obtain ⟨id, hid⟩ := List.mem_iff_getElem?.mp hnt
    obtain ⟨k, hk, he⟩ := back id n hid
    obtain ⟨-, hurl, hclient, hpolicy, -⟩ := Node.eq_of_core he
    obtain ⟨hkp, hkc⟩ := h.made k (List.mem_of_getElem? hk)
    exact ⟨by rw [hp, ← hpolicy, hkp], by rw [hp, ← hurl, ← hclient, hkc]⟩

/-! ### Enrolling -/

/-- Whether a member gives way is decided by the name and address of its node. -/
theorem givesWay_eq (h : r.Sound) {m : String × Nat} (hm : m ∈ r.members) (hn : r.nodes[m.2]? = some n)
    (name url : String) : r.givesWay name url m = (decide (n.name = name) || decide (n.url = url)) := by
  obtain ⟨k, hk, hname⟩ := h.filed m hm
  rw [hn] at hk
  cases hk
  simp [givesWay, hn, hname]

theorem place_not_mem_old (h : r.Sound) {m : String × Nat} (hm : m ∈ r.members) {name url : String}
    (hstay : r.givesWay name url m = false) : m.2 ∉ (r.members.filter (r.givesWay name url)).map (·.2) := by
  intro hplace
  obtain ⟨k, hk, hp⟩ := List.mem_map.mp hplace
  obtain ⟨hk, hold⟩ := List.mem_filter.mp hk
  rw [h.eq_of_place hk hm hp, hstay] at hold
  cases hold

/-- A member that stays keeps its node as it is. -/
theorem nodes_seat_of_stay (h : r.Sound) (now : Nat) {m : String × Nat} (hm : m ∈ r.members)
    (hstay : r.givesWay n.name n.url m = false) : (r.seat now n).nodes[m.2]? = r.nodes[m.2]? := by
  rw [seat, List.getElem?_append_left (by rw [length_modifyAll]; exact h.lt_length hm)]
  exact nodes_modifyAll_of_not_mem r (h.place_not_mem_old hm hstay)

/-- Whoever registers comes last, and the members of its name or address leave. -/
theorem memberNodes_seat (h : r.Sound) (now : Nat) (n : Node) :
    (r.seat now n).memberNodes =
      (r.memberNodes.filter fun k => !(decide (k.name = n.name) || decide (k.url = n.url))) ++ [n.start now] := by
  have hold : ((r.members.filter (!r.givesWay n.name n.url ·)).filterMap fun m => (r.seat now n).nodes[m.2]?) =
      r.memberNodes.filter fun k => !(decide (k.name = n.name) || decide (k.url = n.url)) := by
    rw [memberNodes, ← filterMap_filter_eq fun m hm k hk => congrArg (!·) (h.givesWay_eq hm hk n.name n.url)]
    refine List.filterMap_congr fun m hm => ?_
    obtain ⟨hm, hstay⟩ := List.mem_filter.mp hm
    exact h.nodes_seat_of_stay now hm (by simpa using hstay)
  rw [memberNodes, show (r.seat now n).members =
    r.members.filter (!r.givesWay n.name n.url ·) ++ [(n.name, r.nodes.length)] from rfl, List.filterMap_append, hold]
  simp [nodes_seat_new]

theorem mem_memberNodes_seat (h : r.Sound) {now : Nat} {k : Node} (hk : k ∈ (r.seat now n).memberNodes) :
    (k ∈ r.memberNodes ∧ k.name ≠ n.name ∧ k.url ≠ n.url) ∨ k = n.start now := by
  rw [h.memberNodes_seat now n] at hk
  rcases List.mem_append.mp hk with hk | hk
  · obtain ⟨hk, hstay⟩ := List.mem_filter.mp hk
    exact Or.inl ⟨hk, by simpa using hstay⟩
  · exact Or.inr (List.mem_singleton.mp hk)

/-- Seating a node that the roster's policy made keeps a roster sound. -/
protected theorem seat (h : r.Sound) (now : Nat) (hname : n.name ≠ "") (hurl : n.url ≠ "")
    (hmade : n.policy = r.policy ∧ Client.make "node" n.url r.policy.secret = .ok n.client) :
    (r.seat now n).Sound := by
  have hpolicy : (r.seat now n).policy = r.policy := policy_modifyAll r
  refine ⟨fun m hm => ?_, ?_, fun m hm => ?_, ?_, fun k hk => ?_, fun k hk => ?_, fun id k hk hout => ?_,
    fun k hk => ?_⟩
  · rcases mem_members_seat hm with ⟨hm, hstay⟩ | rfl
    · rw [h.nodes_seat_of_stay now hm hstay]
      exact h.filed m hm
    · exact ⟨n.start now, nodes_seat_new r now n, rfl⟩
  · show ((r.members.filter (!r.givesWay n.name n.url ·) ++ [(n.name, r.nodes.length)]).map (·.1)).Nodup
    rw [List.map_append, List.nodup_append]
    refine ⟨h.names.sublist (List.filter_sublist.map _), List.nodup_singleton _, ?_⟩
    intro a ha b hb
    obtain ⟨m, hm, rfl⟩ := List.mem_map.mp ha
    obtain rfl := List.mem_singleton.mp hb
    -- A member that has the new name gives way.
    intro hab
    have hstay := (List.mem_filter.mp hm).2
    simp [givesWay, hab] at hstay
  · rcases mem_members_seat hm with ⟨hm, -⟩ | rfl
    · exact h.named m hm
    · exact hname
  · rw [h.memberNodes_seat now n, List.map_append, List.nodup_append]
    refine ⟨h.urls.sublist (List.filter_sublist.map _), List.nodup_singleton _, ?_⟩
    intro a ha b hb
    obtain ⟨k, hk, rfl⟩ := List.mem_map.mp ha
    obtain rfl := List.mem_singleton.mp hb
    intro hab
    have hstay := (List.mem_filter.mp hk).2
    simp [show k.url = n.url from hab] at hstay
  · rcases h.mem_memberNodes_seat hk with ⟨hk, -⟩ | rfl
    · exact h.located k hk
    · exact hurl
  · rcases h.mem_memberNodes_seat hk with ⟨hk, -⟩ | rfl
    · exact h.running k hk
    · exact Node.isRunning_start n now
  · -- A node that is no member's now was no member's before, or was stopped for giving way.
    rcases nodes_seat_back r now n hk with ⟨rfl, -⟩ | ⟨k₀, hk₀, -, rfl | ⟨-, hrun⟩⟩
    · exact absurd (List.mem_map.mpr ⟨(n.name, r.nodes.length), List.mem_append_right _ List.mem_cons_self, rfl⟩) hout
    · refine h.retired id k hk₀ fun hid => ?_
      obtain ⟨m, hm, rfl⟩ := List.mem_map.mp hid
      by_cases hold : r.givesWay n.name n.url m = true
      · rw [seat, List.getElem?_append_left (by rw [length_modifyAll]; exact h.lt_length hm)] at hk
        have hrun := isRunning_stopAll r (List.mem_map.mpr ⟨m, List.mem_filter.mpr ⟨hm, hold⟩, rfl⟩) hk
        rw [h.running k (mem_memberNodes.mpr ⟨m, hm, hk₀⟩)] at hrun
        cases hrun
      · exact hout (List.mem_map.mpr ⟨m, List.mem_append_left _ (List.mem_filter.mpr ⟨hm, by simpa using hold⟩), rfl⟩)
    · exact hrun
  · obtain ⟨id, hid⟩ := List.mem_iff_getElem?.mp hk
    rw [hpolicy]
    rcases nodes_seat_back r now n hid with ⟨-, rfl⟩ | ⟨k₀, hk₀, he, -⟩
    · exact hmade
    · obtain ⟨-, hu, hc, hp⟩ := Node.eq_of_identity he
      rw [hu, hc, hp]
      exact h.made k₀ (List.mem_of_getElem? hk₀)

/-! ### Leaving -/

/-- Whoever leaves takes one place, and the others stay in theirs. -/
theorem memberNodes_remove (h : r.Sound) {t : Roster} {name : String} (ht : r.remove name = .ok t) :
    t.memberNodes = r.memberNodes.filter (·.name ≠ name) := by
  obtain ⟨id, hid, rfl⟩ := remove_eq_ok ht
  have hname : ∀ m ∈ r.members, ∀ k, r.nodes[m.2]? = some k → (decide (m.1 ≠ name)) = decide (k.name ≠ name) := by
    intro m hm k hk
    obtain ⟨k', hk', hm'⟩ := h.filed m hm
    rw [hk] at hk'
    cases hk'
    rw [hm']
  rw [memberNodes, memberNodes, ← filterMap_filter_eq hname]
  refine List.filterMap_congr fun m hm => ?_
  obtain ⟨hm, hne⟩ := List.mem_filter.mp hm
  have hplace : id ≠ m.2 := by
    intro he
    have := h.eq_of_place (find?_eq_some hid) hm he
    rw [← this] at hne
    simp at hne
  exact List.getElem?_modify_ne Node.stop r.nodes hplace

protected theorem remove (h : r.Sound) {t : Roster} {name : String} (ht : r.remove name = .ok t) : t.Sound := by
  have hnodes := h.memberNodes_remove ht
  obtain ⟨id, hid, rfl⟩ := remove_eq_ok ht
  have mem : ∀ k ∈ r.memberNodes.filter (·.name ≠ name), k ∈ r.memberNodes := fun k hk => (List.mem_filter.mp hk).1
  have back : ∀ (i : Nat) (k : Node), (r.nodes.modify id Node.stop)[i]? = some k →
      ∃ k₀, r.nodes[i]? = some k₀ ∧ k = if id = i then k₀.stop else k₀ := by
    intro i k hk
    rw [List.getElem?_modify] at hk
    obtain ⟨k₀, hk₀, rfl⟩ := Option.map_eq_some_iff.mp hk
    exact ⟨k₀, hk₀, rfl⟩
  refine ⟨fun m hm => ?_, h.names.sublist (List.filter_sublist.map _),
    fun m hm => h.named m (List.mem_filter.mp hm).1, ?_, fun k hk => ?_, fun k hk => ?_,
    fun i k hk hout => ?_, fun k hk => ?_⟩
  · obtain ⟨k, hk, hname⟩ := h.filed m (List.mem_filter.mp hm).1
    refine ⟨if id = m.2 then k.stop else k, ?_, ?_⟩
    · show (r.nodes.modify id Node.stop)[m.2]? = _
      rw [List.getElem?_modify, hk]
      rfl
    · split <;> exact hname
  · rw [hnodes]
    exact h.urls.sublist (List.filter_sublist.map _)
  · rw [hnodes] at hk
    exact h.located k (mem k hk)
  · rw [hnodes] at hk
    exact h.running k (mem k hk)
  · -- A node that is no member's now is the one that was stopped, or was no member's before.
    obtain ⟨k₀, hk₀, rfl⟩ := back i k hk
    split
    · rfl
    · rename_i hne
      refine h.retired i k₀ hk₀ fun hi => ?_
      obtain ⟨m, hm, rfl⟩ := List.mem_map.mp hi
      refine hout (List.mem_map.mpr ⟨m, List.mem_filter.mpr ⟨hm, ?_⟩, rfl⟩)
      have hname : m.1 ≠ name := fun he => hne (congrArg Prod.snd (h.eq_of_name (find?_eq_some hid) hm he.symm))
      simpa using hname
  · obtain ⟨i, hi⟩ := List.mem_iff_getElem?.mp hk
    obtain ⟨k₀, hk₀, rfl⟩ := back i k hi
    have hmade := h.made k₀ (List.mem_of_getElem? hk₀)
    split
    · exact hmade
    · exact hmade

/-- After the members were dismissed nobody is checked. -/
protected theorem dissolve (h : r.Sound) : r.dissolve.Sound where
  filed := fun _ hm => by cases hm
  names := List.nodup_nil
  named := fun _ hm => by cases hm
  urls := List.nodup_nil
  located := fun _ hk => by cases hk
  running := fun _ hk => by cases hk
  retired := fun id k hk _ => by
    by_cases hid : id ∈ r.members.map (·.2)
    · exact isRunning_stopAll r hid hk
    · exact h.retired id k ((nodes_modifyAll_of_not_mem r hid).symm.trans hk) hid
  made := fun k hk => by
    have hpolicy : r.dissolve.policy = r.policy := policy_modifyAll r
    have hid := List.mem_map_of_mem (f := Node.identity) hk
    rw [show r.dissolve.nodes = (r.modifyAll (r.members.map (·.2)) Node.stop).nodes from rfl,
      identity_modifyAll r _ Node.identity_stop] at hid
    obtain ⟨k₀, hk₀, he⟩ := List.mem_map.mp hid
    obtain ⟨-, hu, hc, hp⟩ := Node.eq_of_identity he
    rw [hpolicy, ← hu, ← hc, ← hp]
    exact h.made k₀ hk₀

end Sound

end Muster.Roster
