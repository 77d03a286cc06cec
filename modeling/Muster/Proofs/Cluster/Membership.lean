import Muster.Proofs.Cluster.Nodes

/-! # Membership is decided by changes

Rosters that differ in nothing but what is known of their nodes stay so whatever happens to their clusters, if the same
happens to both: no reply, no check and no time that goes by decides who belongs to a cluster. -/

namespace Muster

namespace Roster

variable {a b d : Roster}

theorem Same.symm (h : a.Same b) : b.Same a := ⟨h.policy.symm, h.members.symm, h.cores.symm⟩

theorem Same.trans (h : a.Same b) (k : b.Same d) : a.Same d :=
  ⟨h.policy.trans k.policy, h.members.trans k.members, h.cores.trans k.cores⟩

theorem Same.length (h : a.Same b) : a.nodes.length = b.nodes.length := by
  have hlength := congrArg List.length h.cores
  rwa [List.length_map, List.length_map] at hlength

theorem Same.core (h : a.Same b) (id : Nat) : (a.nodes[id]?).map Node.core = (b.nodes[id]?).map Node.core := by
  rw [← List.getElem?_map, ← List.getElem?_map, h.cores]

theorem Same.stop (h : a.Same b) (id : Nat) : (a.modify id Node.stop).Same (b.modify id Node.stop) where
  policy := h.policy
  members := h.members
  cores := by
    refine List.ext_getElem? fun i => ?_
    show ((a.nodes.modify id Node.stop).map Node.core)[i]? = ((b.nodes.modify id Node.stop).map Node.core)[i]?
    have hcore := h.core i
    rw [List.getElem?_map, List.getElem?_map, List.getElem?_modify, List.getElem?_modify]
    cases ha : a.nodes[i]? with
    | none =>
      rw [ha] at hcore
      rw [Option.map_eq_none_iff.mp hcore.symm]
    | some n =>
      rw [ha] at hcore
      obtain ⟨k, hk, hcore⟩ := Option.map_eq_some_iff.mp hcore.symm
      rw [hk]
      -- Which node it is decides what it is once it was stopped.
      have hstop : n.stop.core = k.stop.core := congrArg (fun x => (x.1, false)) hcore.symm
      show some (if id = i then n.stop else n).core = some (if id = i then k.stop else k).core
      split
      · rw [hstop]
      · rw [hcore]

theorem Same.stopAll (h : a.Same b) (ids : List Nat) : (a.modifyAll ids Node.stop).Same (b.modifyAll ids Node.stop) := by
  induction ids generalizing a b with
  | nil => exact h
  | cons id ids ih => exact ih (h.stop id)

theorem Same.givesWay (h : a.Same b) (name url : String) : a.givesWay name url = b.givesWay name url := by
  funext m
  have hcore := h.core m.2
  unfold Roster.givesWay
  cases ha : a.nodes[m.2]? with
  | none =>
    rw [ha] at hcore
    rw [Option.map_eq_none_iff.mp hcore.symm]
  | some n =>
    rw [ha] at hcore
    obtain ⟨k, hk, hcore⟩ := Option.map_eq_some_iff.mp hcore.symm
    rw [hk]
    simp only [Option.any_some, (Node.eq_of_core hcore).2.1]

theorem Same.seat (h : a.Same b) (now now' : Nat) {n k : Node} (hidentity : n.identity = k.identity) :
    (a.seat now n).Same (b.seat now' k) := by
  obtain ⟨hname, hurl, -, -⟩ := Node.eq_of_identity hidentity
  have hstopped := h.stopAll ((a.members.filter (a.givesWay n.name n.url)).map (·.2))
  have hold : (b.members.filter (b.givesWay k.name k.url)).map (·.2) =
      (a.members.filter (a.givesWay n.name n.url)).map (·.2) := by
    rw [← h.givesWay, ← h.members, hname, hurl]
  refine ⟨?_, ?_, ?_⟩
  · show (a.modifyAll _ Node.stop).policy = (b.modifyAll _ Node.stop).policy
    rw [hold, hstopped.policy]
  · show a.members.filter _ ++ [(n.name, a.nodes.length)] = b.members.filter _ ++ [(k.name, b.nodes.length)]
    rw [h.givesWay, h.members, hname, hurl, h.length]
  · show ((a.modifyAll _ Node.stop).nodes ++ [n.start now]).map Node.core =
      ((b.modifyAll _ Node.stop).nodes ++ [k.start now']).map Node.core
    have hnew : (n.start now).core = (k.start now').core := Prod.ext hidentity (by simp [Node.core])
    rw [List.map_append, List.map_append, hold, hstopped.cores, List.map_singleton, List.map_singleton, hnew]

theorem Same.dissolve (h : a.Same b) : a.dissolve.Same b.dissolve := by
  have hstopped := h.stopAll (a.members.map (·.2))
  refine ⟨?_, rfl, ?_⟩
  · show (a.modifyAll _ Node.stop).policy = (b.modifyAll _ Node.stop).policy
    rw [← h.members, hstopped.policy]
  · show (a.modifyAll _ Node.stop).nodes.map Node.core = (b.modifyAll _ Node.stop).nodes.map Node.core
    rw [← h.members, hstopped.cores]

end Roster

namespace Cluster

variable {a b : Cluster}

/-- What happens to two clusters leaves their members the same. -/
theorem same_react (h : a.roster.Same b.roster) (e : Event) : (a.react e).roster.Same (b.react e).roster := by
  have quiet (he : ∀ x, e ≠ .changed x) : (a.react e).roster.Same (b.react e).roster :=
    ((a.react_quiet he).trans h).trans (b.react_quiet he).symm
  cases e with
  | operated o limit => exact quiet fun _ => by simp
  | checked place moment x => exact quiet fun _ => by simp
  | passed span => exact quiet fun _ => by simp
  | rewired net => exact quiet fun _ => by simp
  | changed x =>
    cases x with
    | enroll name url version =>
      show (a.enroll name url version).1.roster.Same (b.enroll name url version).1.roster
      rcases a.enroll_cases name url version with ⟨hnot, x, ha⟩ | ⟨hcan, n, hn, ha⟩ <;>
        rcases b.enroll_cases name url version with ⟨hnot', y, hb⟩ | ⟨hcan', k, hk, hb⟩
      · rw [ha, hb]
        exact h
      · exact absurd (h.policy ▸ hcan') hnot
      · exact absurd (h.policy ▸ hcan) hnot'
      · rw [ha, hb]
        obtain ⟨client, hclient, rfl⟩ := make_node hn
        obtain ⟨client', hclient', rfl⟩ := make_node hk
        rw [h.policy, hclient'] at hclient
        cases hclient
        refine h.seat _ _ ?_
        simp [Node.identity, h.policy]
    | remove name =>
      show (a.remove name).1.roster.Same (b.remove name).1.roster
      have hfind : a.roster.find? name = b.roster.find? name := by
        unfold Roster.find?
        rw [h.members]
      rcases a.remove_cases name with ⟨hnot, ha⟩ | ⟨hmem, t, ht, ha⟩ <;>
        rcases b.remove_cases name with ⟨hnot', hb⟩ | ⟨hmem', u, hu, hb⟩
      · rw [ha, hb]
        exact h
      · exact absurd (h.members ▸ hmem') hnot
      · exact absurd (h.members ▸ hmem) hnot'
      · rw [ha, hb]
        obtain ⟨id, hid, rfl⟩ := Roster.remove_eq_ok ht
        obtain ⟨id', hid', rfl⟩ := Roster.remove_eq_ok hu
        rw [hfind, hid'] at hid
        cases hid
        have hstopped := h.stop id
        exact ⟨hstopped.policy, by simp [h.members], hstopped.cores⟩
    | dissolve => exact h.dissolve

end Cluster

end Muster
