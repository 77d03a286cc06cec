import Muster.Proofs.Node.Overlap

/-! # Loops that were cancelled

What the loops of a node do between a stop and the next start. Those that find nothing due when they notice their token
(`Heeds`) end the checks they have under way, and begin no other. -/

namespace Muster

open Schedule

namespace Loops

variable {ρ : Type} {interval timeout now : Nat} {s s' : Nat × Loops ρ} {d : Option (Deed ρ)} {ds ds' : List (Deed ρ)}
variable {l : Loops ρ} {p p' : Phase ρ}

/-- A loop that is cancelled by now finds nothing due when it notices its token. -/
def Heeds (now : Nat) : Phase ρ → Prop
  | .waiting due => now < due
  | .checking c next => c.ends < next
  | _ => True

/-- The node has no loop of its own, and those it had heed their tokens. -/
structure Winding (interval timeout : Nat) (s : Nat × Loops ρ) : Prop where
  current : s.2.current = none
  punctual : ∀ p ∈ s.2.all, Punctual interval timeout s.1 p
  heeds : ∀ p ∈ s.2.all, Heeds s.1 p

/-- Only a start makes a loop. -/
theorem Step.current_none (h : Step interval timeout s d s') (hs : s.2.current = none)
    (hstart : ∀ now l, d ≠ some (.started now l)) : s'.2.current = none := by
  cases h with
  | start now l => exact absurd rfl (hstart now l)
  | stop => rfl
  | go h => cases hs
  | linger h => exact hs
  | quit h => exact hs
  | wait => exact hs

/-- A loop that heeds its token begins nothing as it goes on, and still heeds it. -/
theorem Goes.heeds (h : Goes interval timeout now p d p') (hinterval : 0 < interval)
    (hp : Punctual interval timeout now p) (hheeds : Heeds now p) :
    Heeds now p' ∧ (d = none ∧ Phase.check? p = none ∧ Phase.check? p' = none ∨
      ∃ c, d = some (.ended c) ∧ Phase.check? p = some c ∧ Phase.check? p' = none) := by
  cases h with
  | restarted h =>
    rw [begin_of_pos hinterval]
    exact ⟨Nat.lt_add_of_pos_right hinterval, Or.inl ⟨rfl, rfl, rfl⟩⟩
  | due h => exact absurd hheeds (Nat.not_lt_of_le h)
  | checked h =>
    obtain ⟨-, -, hends, -⟩ := hp
    exact ⟨Nat.lt_of_le_of_lt hends hheeds, Or.inr ⟨_, rfl, rfl, rfl⟩⟩

/-- Between a stop and the next start, a step ends checks under way at most. -/
theorem Step.winding (hinterval : 0 < interval) (h : Step interval timeout s d s') (hs : Winding interval timeout s)
    (hstart : ∀ now l, d ≠ some (.started now l)) :
    Winding interval timeout s' ∧ begun d.toList = [] ∧ (ended d.toList ++ underWay s'.2).Perm (underWay s.2) := by
  have hcurrent := h.current_none hs.current hstart
  have hpunctual := h.punctual hs.punctual
  rcases h.cases_all with ⟨rfl, -⟩ | ⟨rfl, rfl⟩ | ⟨a, p, b, p', hgoes, hnow, hall, hall'⟩ |
    ⟨a, p, b, rfl, hidle, hnow, hall, hall'⟩ | ⟨rfl, hsame, hlater, hbusy, -⟩
  · exact absurd rfl (hstart s.1 s.2)
  · refine ⟨⟨hcurrent, hpunctual, fun p hp => hs.heeds p (by simpa using hp)⟩, rfl, ?_⟩
    unfold underWay
    rw [all_stop]
    exact List.Perm.refl _
  · have hmem : p ∈ s.2.all := hall ▸ List.mem_append_right a List.mem_cons_self
    obtain ⟨hheeds, hdeed⟩ := hgoes.heeds hinterval (hs.punctual p hmem) (hs.heeds p hmem)
    refine ⟨⟨hcurrent, hpunctual, fun q hq => ?_⟩, ?_, ?_⟩
    · rw [hnow]
      rw [hall'] at hq
      rcases mem_middle (p := p) hq with rfl | hq
      · exact hheeds
      · exact hs.heeds q (hall ▸ hq)
    · rcases hdeed with ⟨rfl, -, -⟩ | ⟨c, rfl, -, -⟩ <;> rfl
    · unfold underWay
      rw [hall, hall', List.filterMap_append, List.filterMap_append]
      rcases hdeed with ⟨rfl, hp, hp'⟩ | ⟨c, rfl, hp, hp'⟩
      · rw [List.filterMap_cons_none hp, List.filterMap_cons_none hp']
        exact List.Perm.refl _
      · rw [List.filterMap_cons_some hp, List.filterMap_cons_none hp']
        have hended : ended (some (Deed.ended c)).toList = [c] := rfl
        rw [hended, List.singleton_append]
        exact List.perm_middle.symm
  · refine ⟨⟨hcurrent, hpunctual, fun q hq => ?_⟩, rfl, ?_⟩
    · rw [hnow]
      rw [hall'] at hq
      exact hs.heeds q (hall ▸ (sublist_middle a p b).mem hq)
    · unfold underWay
      rw [hall, hall', List.filterMap_append, List.filterMap_append, List.filterMap_cons_none hidle]
      exact List.Perm.refl _
  · refine ⟨⟨hcurrent, hpunctual, fun q hq => ?_⟩, rfl, ?_⟩
    · -- Time does not go by while a cancelled loop waits.
      rw [hsame] at hq
      have hcancelled : q ∈ s.2.cancelled := by simpa [all, hs.current] using hq
      cases q with
      | checking c next => exact hs.heeds _ hq
      | _ => exact absurd rfl (hbusy _ hcancelled)
    · rw [hsame]
      exact List.Perm.refl _

/-- Between a stop and the next start no check begins, and the checks that end are some of those under way. -/
theorem Run.winding (hinterval : 0 < interval) (h : Run interval timeout s ds s') (hs : Winding interval timeout s)
    (hstart : StartFree ds) :
    Winding interval timeout s' ∧ begun ds = [] ∧ (ended ds ++ underWay s'.2).Perm (underWay s.2) := by
  induction h with
  | refl => exact ⟨hs, rfl, List.Perm.refl _⟩
  | @tail s' s'' ds d run step ih =>
    obtain ⟨hs', hbegun, hperm⟩ := ih fun now l hl => hstart now l (List.mem_append_left _ hl)
    obtain ⟨hs'', hbegun', hperm'⟩ := step.winding hinterval hs' fun now l hd =>
      hstart now l (List.mem_append_right _ (Option.mem_toList.mpr hd))
    refine ⟨hs'', by rw [begun_append, hbegun, hbegun']; rfl, ?_⟩
    rw [ended_append, List.append_assoc]
    exact (hperm'.append_left _).trans hperm

theorem Winding.of_stop (hpunctual : ∀ p ∈ l.all, Punctual interval timeout now p) (h : ∀ p ∈ l.all, Heeds now p) :
    Winding interval timeout (now, l.stop) where
  current := rfl
  punctual := fun p hp => hpunctual p (by simpa using hp)
  heeds := fun p hp => h p (by simpa using hp)

/-- A node that is started once is started patiently. -/
theorem patient_once (h : StartFree ds) : Patient interval timeout (.started now unstarted :: ds) := by
  intro u k hk
  rcases List.mem_cons.mp hk with hk | hk
  · cases hk
    exact fun q hq => by cases hq
  · exact absurd hk (h u k)

/-- Loops that are never late heed their tokens unless a check is due at the moment of the stop. -/
theorem heeds_of_onTime (h : OnTime now p) (hdue : p ≠ .waiting now) : Heeds now p := by
  cases p with
  | waiting due => exact Nat.lt_of_le_of_ne h fun he => hdue (congrArg Phase.waiting he.symm)
  | checking c next => exact h
  | _ => trivial

/-- Of checks that are apart at most one has not ended. -/
theorem Spaced.length_unended_le {cs : List (Check ρ)} (h : Spaced interval timeout s cs) :
    ((underWay s.2).filter fun c => s.1 < c.ends).length ≤ 1 := by
  -- A loop ends its check before a later one has one.
  have hover : (underWay s.2).Pairwise fun a b => a.ends ≤ s.1 := by
    unfold underWay
    refine List.pairwise_filterMap.mpr (h.yielding.imp_of_mem fun {q p} hq hp hyields a ha b hb => ?_)
    have hpunctual := h.punctual p hp
    cases q with
    | checking c next =>
      cases p with
      | checking c' next' =>
        cases ha
        cases hb
        exact Nat.le_trans (hyields _ rfl).2 hpunctual.2.1
      | _ => cases hb
    | _ => cases ha
  have hpairs := hover.filter fun c => decide (s.1 < c.ends)
  cases hlist : (underWay s.2).filter fun c => s.1 < c.ends with
  | nil => exact Nat.zero_le 1
  | cons a r =>
    cases r with
    | nil => exact Nat.le_refl 1
    | cons b r =>
      have ha : a ∈ (underWay s.2).filter fun c => s.1 < c.ends := hlist ▸ List.mem_cons_self
      rw [hlist] at hpairs
      have hle := (List.pairwise_cons.mp hpairs).1 b List.mem_cons_self
      have hlt := (List.mem_filter.mp ha).2
      simp only [decide_eq_true_eq] at hlt
      omega

end Loops

end Muster
