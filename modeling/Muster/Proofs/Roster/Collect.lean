import Mathlib.Data.List.Nodup
import Muster.Roster.FanOut

/-! # Collecting outcomes

What is told of each member after a command to all: its own outcome if its call ended before the deadline, and
otherwise that it did not. The order in which the calls ended does not matter. -/

namespace Muster

variable {α : Type}

/-! ### Placing outcomes -/

section
variable {slots : List (Option (Except ClusterError α))} {ended : List (Nat × Except ClusterError α)}
variable {i : Nat} {x : Except ClusterError α}

@[simp] theorem length_place (slots : List (Option (Except ClusterError α)))
    (ended : List (Nat × Except ClusterError α)) : (place slots ended).length = slots.length := by
  induction ended generalizing slots with
  | nil => rfl
  | cons e ended ih => exact (ih (slots.set e.1 (some e.2))).trans List.length_set

theorem place_of_not_mem (h : i ∉ ended.map (·.1)) : (place slots ended)[i]? = slots[i]? := by
  induction ended generalizing slots with
  | nil => rfl
  | cons e ended ih =>
    obtain ⟨he, hrest⟩ := List.ne_and_not_mem_of_not_mem_cons h
    exact (ih hrest).trans (List.getElem?_set_ne (Ne.symm he))

/-- If every call ends at most once, each gets its own outcome. -/
theorem place_of_mem (hnodup : (ended.map (·.1)).Nodup) (hmem : (i, x) ∈ ended) (hi : i < slots.length) :
    (place slots ended)[i]? = some (some x) := by
  induction ended generalizing slots with
  | nil => cases hmem
  | cons e ended ih =>
    obtain ⟨hfresh, hnodup⟩ := List.nodup_cons.mp hnodup
    rcases List.mem_cons.mp hmem with rfl | hmem
    · show (place (slots.set i (some x)) ended)[i]? = _
      rw [place_of_not_mem hfresh, List.getElem?_set_self hi]
    · exact ih hnodup hmem (by rw [List.length_set]; exact hi)

end

/-! ### Calls that ended in time -/

section
variable {deadline i : Nat} {replies : List (Reply α)} {x : Except ClusterError α}

/-- The calls that ended before the deadline are told with their own outcomes. -/
theorem mem_endedBefore : (i, x) ∈ endedBefore deadline replies ↔
    ∃ reply, replies[i]? = some reply ∧ reply.after < deadline ∧ reply.outcome = x := by
  unfold endedBefore
  simp only [List.mem_map, List.mem_filter, List.mem_mergeSort, Prod.exists, Prod.mk.injEq, decide_eq_true_eq]
  constructor
  · rintro ⟨reply, j, ⟨hmem, hlt⟩, rfl, rfl⟩
    exact ⟨reply, List.mem_zipIdx_iff_getElem?.mp hmem, hlt, rfl⟩
  · rintro ⟨reply, hreply, hlt, rfl⟩
    exact ⟨reply, i, ⟨List.mem_zipIdx_iff_getElem?.mpr hreply, hlt⟩, rfl, rfl⟩

theorem nodup_endedBefore (deadline : Nat) (replies : List (Reply α)) :
    ((endedBefore deadline replies).map (·.1)).Nodup := by
  have hindices : (replies.zipIdx.map (·.2)).Nodup := by
    rw [List.zipIdx_map_snd]
    exact List.nodup_range'
  unfold endedBefore
  rw [List.map_map]
  refine List.Nodup.sublist (List.filter_sublist.map _) ?_
  exact ((List.mergeSort_perm ..).map _).nodup_iff.mpr hindices

end

/-! ### What is told -/

/-- What is told of a call: its outcome if it ended in time, and else that the time was over. -/
def Reply.told (deadline : Duration) (reply : Reply α) : Except ClusterError α :=
  if reply.after < deadline.nanos then reply.outcome else .error (.timeout deadline)

theorem Reply.told_eq_ok {deadline : Duration} {reply : Reply α} {x : α} (h : reply.told deadline = .ok x) :
    reply.outcome = .ok x := by
  unfold told at h
  split at h
  · exact h
  · cases h

theorem Reply.told_eq_error {deadline : Duration} {reply : Reply α} {e : ClusterError}
    (h : reply.told deadline = .error e) : reply.outcome = .error e ∨ e = .timeout deadline := by
  unfold told at h
  split at h
  · exact Or.inl h
  · exact Or.inr (Except.error.inj h).symm

/-- Each member is told under its own name, with what came of its own call. -/
theorem collect_eq (deadline : Duration) (names : List String) (replies : List (Reply α))
    (hlength : names.length = replies.length) :
    collect deadline (replies.any fun reply => deadline.nanos ≤ reply.after) names
      (endedBefore deadline.nanos replies) = names.zip (replies.map (Reply.told deadline)) := by
  refine congrArg names.zip (List.ext_getElem? fun i => ?_)
  rw [List.getElem?_map, List.getElem?_map]
  by_cases hi : i < replies.length
  · obtain ⟨reply, hreply⟩ : ∃ reply, replies[i]? = some reply := ⟨_, List.getElem?_eq_getElem hi⟩
    have hslot : i < (names.map fun _ => (none : Option (Except ClusterError α))).length := by
      rw [List.length_map, hlength]
      exact hi
    by_cases hlt : reply.after < deadline.nanos
    · rw [place_of_mem (nodup_endedBefore _ _) (mem_endedBefore.mpr ⟨reply, hreply, hlt, rfl⟩) hslot, hreply]
      simp [Reply.told, hlt]
    · -- A call that has not ended in time makes the whole command take until the deadline.
      have hover : (replies.any fun reply => deadline.nanos ≤ reply.after) = true :=
        List.any_eq_true.mpr ⟨reply, List.mem_of_getElem? hreply, by simpa using hlt⟩
      have hout : i ∉ (endedBefore deadline.nanos replies).map (·.1) := by
        intro hended
        obtain ⟨⟨j, x⟩, hmem, hj⟩ := List.mem_map.mp hended
        obtain ⟨reply', hreply', hlt', -⟩ := mem_endedBefore.mp hmem
        rw [show j = i from hj, hreply] at hreply'
        cases hreply'
        exact hlt hlt'
      rw [place_of_not_mem hout, List.getElem?_map, List.getElem?_eq_getElem (hlength ▸ hi), hreply, hover]
      simp [Reply.told, hlt, unended]
  · have hnone : replies[i]? = none := List.getElem?_eq_none_iff.mpr (Nat.le_of_not_lt hi)
    have hslots : (place (names.map fun _ => none) (endedBefore deadline.nanos replies)).length ≤ i := by
      rw [length_place, List.length_map, hlength]
      exact Nat.le_of_not_lt hi
    rw [hnone, List.getElem?_eq_none_iff.mpr hslots]
    rfl

/-! ### Calls to all members -/

section
variable {call : Node → Network → Network × Reply α} {net : Network}

@[simp] theorem length_callEach (call : Node → Network → Network × Reply α) (net : Network) (nodes : List Node) :
    (callEach call net nodes).2.length = nodes.length := by
  induction nodes generalizing net with
  | nil => rfl
  | cons n nodes ih => exact congrArg (· + 1) (ih (call n net).1)

/-- If no call changes what the others come to, all come to what they come to at the beginning. -/
theorem callEach_eq_map {f : Node → Reply α} {L : Network → Prop} (same : ∀ n net, L net → (call n net).2 = f n)
    (kept : ∀ n net, L net → L (call n net).1) (h : L net) (nodes : List Node) :
    (callEach call net nodes).2 = nodes.map f := by
  induction nodes generalizing net with
  | nil => rfl
  | cons n nodes ih => exact List.cons_eq_cons.mpr ⟨same n net h, ih (kept n net h)⟩

/-- A call to all members tells of each member, in order, what came of its call. -/
theorem told_fanOut (r : Roster) (net : Network) (call : Node → Network → Network × Reply α) :
    (r.fanOut net call).2.2 = (r.memberNodes.map Node.name).zip
      ((callEach call net r.memberNodes).2.map (Reply.told r.policy.timeout)) :=
  collect_eq r.policy.timeout _ _ (by rw [List.length_map, length_callEach])

theorem mem_callEach (call : Node → Network → Network × Reply α) (net : Network) {n : Node} {nodes : List Node}
    (hn : n ∈ nodes) :
    ∃ a, (n, (call n a).2) ∈ nodes.zip (callEach call net nodes).2 := by
  induction nodes generalizing net with
  | nil => cases hn
  | cons k nodes ih =>
    rcases List.mem_cons.mp hn with rfl | hn
    · exact ⟨net, List.mem_cons_self⟩
    · obtain ⟨a, ha⟩ := ih (call k net).1 hn
      exact ⟨a, List.mem_cons_of_mem _ ha⟩

theorem mem_told_fanOut {r : Roster} {x : Node × Reply α}
    (hx : x ∈ r.memberNodes.zip (callEach call net r.memberNodes).2) :
    (x.1.name, x.2.told r.policy.timeout) ∈ (r.fanOut net call).2.2 := by
  rw [told_fanOut, List.zip_map]
  exact List.mem_map.mpr ⟨x, hx, rfl⟩

end

end Muster
