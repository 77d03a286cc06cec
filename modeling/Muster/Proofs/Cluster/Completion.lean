import Muster.Proofs.Cluster.Aggregation

/-! # Orders of completion

The calls to the members end in any order, and some do not end in time. Whatever the order, each outcome goes into the
slot of its own call: that is kept by every call that is joined, so it holds after any of them, and what is told depends
only on which calls have ended. -/

namespace Muster

variable {α : Type}

/-- The calls at the given places with their outcomes, in the order in which they are joined. -/
def joinedIn (calls : List (Told α)) (order : List Nat) : List (Nat × Except ClusterError α) :=
  order.filterMap fun i => calls[i]?.map fun call => (i, call.2)

/-! ### Slots -/

/-- Every slot holds the outcome of its own call if that call has been joined, and is empty otherwise. -/
structure Slotted (calls : List (Told α)) (order : List Nat) (slots : List (Option (Except ClusterError α))) :
    Prop where
  length : slots.length = calls.length
  slot : ∀ i call, calls[i]? = some call → slots[i]? = some (if i ∈ order then some call.2 else none)

namespace Slotted

variable {calls : List (Told α)} {order : List Nat} {slots : List (Option (Except ClusterError α))} {i : Nat}

theorem start (calls : List (Told α)) : Slotted calls [] ((calls.map (·.1)).map fun _ => none) where
  length := by simp
  slot := fun i call hcall => by simp [hcall]

/-- Joining a call fills its slot and no other. -/
theorem join (h : Slotted calls order slots) {call : Told α} (hcall : calls[i]? = some call) :
    Slotted calls (order ++ [i]) (slots.set i (some call.2)) where
  length := by rw [List.length_set, h.length]
  slot := fun j other hother => by
    by_cases hj : i = j
    · subst hj
      obtain rfl : call = other := Option.some.inj (hcall.symm.trans hother)
      have hi : i < slots.length := h.length ▸ (List.getElem?_eq_some_iff.mp hcall).1
      rw [List.getElem?_set_self hi, if_pos (by simp)]
    · have hmem : j ∈ order ++ [i] ↔ j ∈ order := by simp [Ne.symm hj]
      rw [List.getElem?_set_ne hj, h.slot j other hother]
      simp only [hmem]

/-- A place without a call fills no slot. -/
theorem skip (h : Slotted calls order slots) (hnone : calls[i]? = none) : Slotted calls (order ++ [i]) slots where
  length := h.length
  slot := fun j other hother => by
    have hj : j ≠ i := by
      rintro rfl
      rw [hnone] at hother
      cases hother
    have hmem : j ∈ order ++ [i] ↔ j ∈ order := by simp [hj]
    rw [h.slot j other hother]
    simp only [hmem]

/-- However many calls are joined after those that have been. -/
theorem run (h : Slotted calls order slots) (next : List Nat) :
    Slotted calls (order ++ next) (place slots (joinedIn calls next)) := by
  induction next generalizing order slots with
  | nil =>
    rw [List.append_nil]
    exact h
  | cons i next ih =>
    rw [List.append_cons]
    cases hcall : calls[i]? with
    | none =>
      have hjoined : joinedIn calls (i :: next) = joinedIn calls next := by simp [joinedIn, hcall]
      rw [hjoined]
      exact ih (h.skip hcall)
    | some call =>
      have hjoined : joinedIn calls (i :: next) = (i, call.2) :: joinedIn calls next := by simp [joinedIn, hcall]
      rw [hjoined]
      exact ih (h.join hcall)

end Slotted

/-! ### What is told -/

section
variable {calls : List (Told α)} {deadline : Duration} {timedOut : Bool}

/-- Every member is told under its own name: its own outcome if its call has been joined, and else that it has not. -/
theorem getElem?_collect (deadline : Duration) (timedOut : Bool) (calls : List (Told α)) (order : List Nat) (i : Nat) :
    (collect deadline timedOut (calls.map (·.1)) (joinedIn calls order))[i]? =
      calls[i]?.map fun call => (call.1, if i ∈ order then call.2 else unended deadline timedOut) := by
  have hslots := (Slotted.start calls).run order
  rw [List.nil_append] at hslots
  unfold collect List.zip
  rw [List.getElem?_zipWith, List.getElem?_map, List.getElem?_map]
  cases hcall : calls[i]? with
  | none => rfl
  | some call =>
    rw [hslots.slot i call hcall]
    by_cases hi : i ∈ order
    · simp [hi]
    · simp [hi]

/-- It does not matter in which order the calls were joined. -/
theorem collect_congr {order order' : List Nat} (h : ∀ i, i ∈ order' ↔ i ∈ order) :
    collect deadline timedOut (calls.map (·.1)) (joinedIn calls order') =
      collect deadline timedOut (calls.map (·.1)) (joinedIn calls order) := by
  refine List.ext_getElem? fun i => ?_
  simp only [getElem?_collect, h]

end

/-- The calls to all members with what each comes to. -/
def Roster.callsOf (r : Roster) (net : Network) (call : Node → Network → Network × Reply α) : List (Told α) :=
  (r.memberNodes.map Node.name).zip ((callEach call net r.memberNodes).2.map Reply.outcome)

theorem Roster.map_fst_callsOf (r : Roster) (net : Network) (call : Node → Network → Network × Reply α) :
    (r.callsOf net call).map (·.1) = r.memberNodes.map Node.name :=
  List.map_fst_zip (by simp)

/-- A command to all members collects the calls that ended in time, in whichever order they are joined. -/
theorem Roster.fanOut_eq_collect (r : Roster) (net : Network) (call : Node → Network → Network × Reply α)
    {order : List Nat} (horder : ∀ i, i ∈ order ↔ ∃ reply, (callEach call net r.memberNodes).2[i]? = some reply ∧
      reply.after < r.policy.timeout.nanos) :
    (r.fanOut net call).2.2 =
      collect r.policy.timeout
        ((callEach call net r.memberNodes).2.any fun reply => r.policy.timeout.nanos ≤ reply.after)
        ((r.callsOf net call).map (·.1)) (joinedIn (r.callsOf net call) order) := by
  rw [told_fanOut]
  refine List.ext_getElem? fun i => ?_
  rw [getElem?_collect, callsOf]
  unfold List.zip
  rw [List.getElem?_zipWith, List.getElem?_zipWith, List.getElem?_map, List.getElem?_map, List.getElem?_map]
  cases hnode : r.memberNodes[i]? with
  | none => rfl
  | some n =>
    cases hreply : (callEach call net r.memberNodes).2[i]? with
    | none => rfl
    | some reply =>
      by_cases hlt : reply.after < r.policy.timeout.nanos
      · have hi : i ∈ order := (horder i).mpr ⟨reply, hreply, hlt⟩
        simp [hi, hlt, Reply.told]
      · have hi : i ∉ order := fun hi => by
          obtain ⟨reply', hreply', hlt'⟩ := (horder i).mp hi
          obtain rfl := Option.some.inj (hreply.symm.trans hreply')
          exact hlt hlt'
        -- The call is late, so the deadline is over.
        have hover : ((callEach call net r.memberNodes).2.any
            fun reply => r.policy.timeout.nanos ≤ reply.after) = true :=
          List.any_eq_true.mpr ⟨reply, List.mem_of_getElem? hreply, by simpa using hlt⟩
        rw [hover]
        simp [hi, hlt, Reply.told, unended]

/-- What is told of a command to all members does not depend on the order in which the calls end. Of whichever calls
that are joined, in whichever order, there is one entry for each member in the order of the members: under its name the
outcome of its own call if that has been joined, and otherwise that the time was over, or that the call was lost. Every
order of the same calls tells the same, and a command to all members tells what every order of the calls that ended
before the deadline tells. -/
theorem collect_joined :
    (∀ (deadline : Duration) (timedOut : Bool) (calls : List (Told α)) (order : List Nat),
      let told := collect deadline timedOut (calls.map (·.1)) (joinedIn calls order)
      told.length = calls.length ∧
      (∀ i (h : i < calls.length), told[i]? = some (calls[i].1,
        if i ∈ order then calls[i].2
        else if timedOut then .error (.timeout deadline) else .error (.worker "node call aborted"))) ∧
      ∀ order' : List Nat, order'.Perm order →
        collect deadline timedOut (calls.map (·.1)) (joinedIn calls order') = told) ∧
    ∀ (r : Roster) (net : Network) (call : Node → Network → Network × Reply α) (order : List Nat),
      let replies := (callEach call net r.memberNodes).2
      (∀ i, i ∈ order ↔ ∃ reply, replies[i]? = some reply ∧ reply.after < r.policy.timeout.nanos) →
      (r.callsOf net call).map (·.1) = r.memberNodes.map Node.name ∧
      (r.fanOut net call).2.2 =
        collect r.policy.timeout (replies.any fun reply => r.policy.timeout.nanos ≤ reply.after)
          ((r.callsOf net call).map (·.1)) (joinedIn (r.callsOf net call) order) := by
  refine ⟨fun deadline timedOut calls order => ⟨?_, ?_, ?_⟩, fun r net call order horder =>
    ⟨r.map_fst_callsOf net call, r.fanOut_eq_collect net call horder⟩⟩
  · simp [collect, List.length_zip]
  · intro i h
    rw [getElem?_collect, List.getElem?_eq_getElem h]
    cases timedOut <;> rfl
  · exact fun order' hperm => collect_congr fun i => hperm.mem_iff

/-- What the calls in the example below come to: all but the one to the second of three members end in time. -/
def tardy (name : String) : Reply String := ⟨if name = "two" then 1000 else 10, .ok name⟩

/-- Of three calls the third ends first and then the first; the time is over before the second ends. -/
theorem collect_joined_tardy :
    let call (n : Node) (net : Network) := (net, tardy n.name)
    (∀ i, i ∈ [2, 0] ↔ ∃ reply, (callEach call Cluster.twoHosts Cluster.threeMembers.memberNodes).2[i]? = some reply ∧
      reply.after < Cluster.threeMembers.policy.timeout.nanos) ∧
    (Cluster.threeMembers.fanOut Cluster.twoHosts call).2.2[1]? = some ("two", .error (.timeout ⟨1000⟩)) := by
  intro call
  have hnames : Cluster.threeMembers.memberNodes.map Node.name = ["one", "two", "three"] := by decide +kernel
  have htimeout : Cluster.threeMembers.policy.timeout = ⟨1000⟩ := by decide +kernel
  have hreplies : (callEach call Cluster.twoHosts Cluster.threeMembers.memberNodes).2 =
      [tardy "one", tardy "two", tardy "three"] := by
    have hmap := congrArg (List.map tardy) hnames
    rw [List.map_map] at hmap
    rw [callEach_eq_map (f := tardy ∘ Node.name) (L := fun _ => True) (fun _ _ _ => rfl) (fun _ _ _ => trivial) trivial,
      hmap]
    rfl
  have horder : ∀ i, i ∈ [2, 0] ↔ ∃ reply,
      (callEach call Cluster.twoHosts Cluster.threeMembers.memberNodes).2[i]? = some reply ∧
        reply.after < Cluster.threeMembers.policy.timeout.nanos := by
    rw [hreplies, htimeout]
    rintro (_ | _ | _ | i) <;> simp [tardy]
  have hcalls : Cluster.threeMembers.callsOf Cluster.twoHosts call =
      [("one", .ok "one"), ("two", .ok "two"), ("three", .ok "three")] := by
    rw [Roster.callsOf, hnames, hreplies]
    rfl
  obtain ⟨hcollect, hfanOut⟩ := collect_joined (α := String)
  obtain ⟨-, htold⟩ := hfanOut Cluster.threeMembers Cluster.twoHosts call [2, 0] horder
  refine ⟨horder, ?_⟩
  rw [htold, hcalls, hreplies, htimeout]
  exact (hcollect ⟨1000⟩ true [("one", .ok "one"), ("two", .ok "two"), ("three", .ok "three")] [2, 0]).2.1 1 (by decide)

end Muster
