import Muster.Node.Schedule

/-! # The loops of a node

A schedule takes it that a loop which is cancelled begins no other check. A loop learns that it was cancelled only when
it waits for its next check, though, and if that check is due by then, either of the two may come first. Here the loops
of a node stand side by side (`Loops`), and whatever can happen at one moment happens in any order (`Loops.Step`): the
runs of these loops are all that a node can do on one clock, however long its worker takes to answer. -/

namespace Muster

open Schedule

/-- The loops of a node: the one that it holds the token of, and those that were cancelled and have not noticed. -/
structure Loops (ρ : Type) where
  current : Option (Phase ρ)
  cancelled : List (Phase ρ)

/-- What others notice of a node's loops. -/
inductive Deed (ρ : Type)
  /-- The node is started, as its loops stand. -/
  | started (now : Nat) (l : Loops ρ)
  | stopped
  | began (c : Check ρ)
  | ended (c : Check ρ)

namespace Loops

variable {ρ : Type}

/-- No loop was ever started. -/
def unstarted : Loops ρ := ⟨none, []⟩

/-- All loops, in the order in which they were started. -/
def all (l : Loops ρ) : List (Phase ρ) := l.cancelled ++ l.current.toList

/-- The loop of a node is cancelled. -/
def stop (l : Loops ρ) : Loops ρ := ⟨none, l.all⟩

/-- Where a new loop stands: it waits the time that a check may take if it takes the place of another one. -/
def opening (now interval timeout : Nat) (l : Loops ρ) : Phase ρ :=
  if l.current.isSome then .restarting (now + timeout) else Phase.begin now interval

/-- A loop is started in the place of the one there is. -/
def start (now interval timeout : Nat) (l : Loops ρ) : Loops ρ := ⟨some (l.opening now interval timeout), l.all⟩

/-- What a loop does at a moment by itself. A check takes no longer than `timeout`, and the next one is due an interval
after this one was, or up to an interval after its beginning if it was late. -/
inductive Goes (interval timeout now : Nat) : Phase ρ → Option (Deed ρ) → Phase ρ → Prop
  | restarted {t : Nat} (h : t ≤ now) : Goes interval timeout now (.restarting t) none (Phase.begin now interval)
  | due {t next : Nat} {c : Check ρ} (h : t ≤ now) (hstarted : c.started = now) (hends : now ≤ c.ends)
      (htimeout : c.ends ≤ now + timeout) (hearliest : t + interval ≤ next) (hlatest : next ≤ now + interval) :
      Goes interval timeout now (.waiting t) (some (.began c)) (.checking c next)
  | checked {c : Check ρ} {next : Nat} (h : c.ends ≤ now) :
      Goes interval timeout now (.checking c next) (some (.ended c)) (.waiting next)

/-- What can happen next, at any of the moments when nothing that is due is passed over. -/
inductive Step (interval timeout : Nat) : Nat × Loops ρ → Option (Deed ρ) → Nat × Loops ρ → Prop
  | start (now : Nat) (l : Loops ρ) :
      Step interval timeout (now, l) (some (.started now l)) (now, l.start now interval timeout)
  | stop (now : Nat) (l : Loops ρ) : Step interval timeout (now, l) (some .stopped) (now, l.stop)
  /-- The loop of the node goes on. -/
  | go {now : Nat} {p p' : Phase ρ} {d : Option (Deed ρ)} {cancelled : List (Phase ρ)}
      (h : Goes interval timeout now p d p') :
      Step interval timeout (now, ⟨some p, cancelled⟩) d (now, ⟨some p', cancelled⟩)
  /-- A cancelled loop goes on: it is busy with a check, or what it waits for comes before the token. -/
  | linger {now : Nat} {current : Option (Phase ρ)} {p p' : Phase ρ} {d : Option (Deed ρ)} {a b : List (Phase ρ)}
      (h : Goes interval timeout now p d p') :
      Step interval timeout (now, ⟨current, a ++ p :: b⟩) d (now, ⟨current, a ++ p' :: b⟩)
  /-- A cancelled loop that waits notices its token. -/
  | quit {now : Nat} {current : Option (Phase ρ)} {p : Phase ρ} {a b : List (Phase ρ)} (h : Phase.check? p = none) :
      Step interval timeout (now, ⟨current, a ++ p :: b⟩) none (now, ⟨current, a ++ b⟩)
  /-- Time goes by, up to what is due next. -/
  | wait {now t : Nat} {l : Loops ρ} (hlater : now ≤ t) (hbusy : ∀ p ∈ l.cancelled, Phase.check? p ≠ none)
      (hdue : ∀ p ∈ l.all, ∀ u e, Phase.next? p = some (u, e) → t ≤ u) : Step interval timeout (now, l) none (t, l)

/-- Some steps, with the deeds among them. -/
inductive Run (interval timeout : Nat) : Nat × Loops ρ → List (Deed ρ) → Nat × Loops ρ → Prop
  | refl (s : Nat × Loops ρ) : Run interval timeout s [] s
  | tail {s s' s'' : Nat × Loops ρ} {ds : List (Deed ρ)} {d : Option (Deed ρ)} (h : Run interval timeout s ds s')
      (step : Step interval timeout s' d s'') : Run interval timeout s (ds ++ d.toList) s''

/-- The check that a deed begins. -/
def begun? : Deed ρ → Option (Check ρ)
  | .began c => some c
  | _ => none

/-- The check that a deed ends. -/
def ended? : Deed ρ → Option (Check ρ)
  | .ended c => some c
  | _ => none

/-- The checks that begin in a run. -/
def begun (ds : List (Deed ρ)) : List (Check ρ) := ds.filterMap begun?

/-- The checks that end in a run. -/
def ended (ds : List (Deed ρ)) : List (Check ρ) := ds.filterMap ended?

/-- Nobody starts the node. -/
def StartFree (ds : List (Deed ρ)) : Prop := ∀ now l, Deed.started now l ∉ ds

/-- The checks under way. -/
def underWay (l : Loops ρ) : List (Check ρ) := l.all.filterMap Phase.check?

variable {interval timeout now : Nat} {s s' s'' : Nat × Loops ρ} {d : Option (Deed ρ)} {ds ds' : List (Deed ρ)}
variable {l : Loops ρ} {p : Phase ρ} {c : Check ρ}

@[simp] theorem all_stop (l : Loops ρ) : l.stop.all = l.all := List.append_nil _

@[simp] theorem all_start (l : Loops ρ) :
    (l.start now interval timeout).all = l.all ++ [l.opening now interval timeout] := rfl

@[simp] theorem begun_append (ds ds' : List (Deed ρ)) : begun (ds ++ ds') = begun ds ++ begun ds' :=
  List.filterMap_append

@[simp] theorem ended_append (ds ds' : List (Deed ρ)) : ended (ds ++ ds') = ended ds ++ ended ds' :=
  List.filterMap_append

theorem begin_of_pos (h : 0 < interval) : (Phase.begin now interval : Phase ρ) = .waiting (now + interval) :=
  if_neg (Nat.ne_of_gt h)

theorem StartFree.append (h : StartFree ds) (h' : StartFree ds') : StartFree (ds ++ ds') := by
  intro now l hl
  rcases List.mem_append.mp hl with hl | hl
  · exact h now l hl
  · exact h' now l hl

/-- Only the beginning of a check adds to the checks that begin. -/
theorem append_begun {cs : List (Check ρ)} (h : d.bind begun? = none) : cs ++ begun d.toList = cs := by
  cases d with
  | none => exact List.append_nil cs
  | some a =>
    have hnone : begun? a = none := h
    simp [begun, hnone]

/-! ### Runs -/

theorem Run.one (h : Step interval timeout s d s') : Run interval timeout s d.toList s' := by
  simpa using (Run.refl s).tail h

theorem Run.trans (h : Run interval timeout s ds s') (h' : Run interval timeout s' ds' s'') :
    Run interval timeout s (ds ++ ds') s'' := by
  induction h' with
  | refl => simpa using h
  | tail _ step ih => simpa [List.append_assoc] using ih.tail step

/-- What a step makes of all loops: one is added behind them, one goes on or leaves, or they stay as they are. -/
theorem Step.cases_all (h : Step interval timeout s d s') :
    (d = some (.started s.1 s.2) ∧ s' = (s.1, s.2.start s.1 interval timeout)) ∨
    (d = some .stopped ∧ s' = (s.1, s.2.stop)) ∨
    (∃ a p b p', Goes interval timeout s.1 p d p' ∧ s'.1 = s.1 ∧ s.2.all = a ++ p :: b ∧ s'.2.all = a ++ p' :: b) ∨
    (∃ a p b, d = none ∧ Phase.check? p = none ∧ s'.1 = s.1 ∧ s.2.all = a ++ p :: b ∧ s'.2.all = a ++ b) ∨
    (d = none ∧ s'.2 = s.2 ∧ s.1 ≤ s'.1 ∧ (∀ p ∈ s.2.cancelled, Phase.check? p ≠ none) ∧
      ∀ p ∈ s.2.all, ∀ u e, Phase.next? p = some (u, e) → s'.1 ≤ u) := by
  cases h with
  | start now l => exact Or.inl ⟨rfl, rfl⟩
  | stop now l => exact Or.inr (Or.inl ⟨rfl, rfl⟩)
  | @go now p p' d cancelled h => exact Or.inr (Or.inr (Or.inl ⟨cancelled, p, [], p', h, rfl, rfl, rfl⟩))
  | @linger now current p p' d a b h =>
    refine Or.inr (Or.inr (Or.inl ⟨a, p, b ++ current.toList, p', h, rfl, ?_, ?_⟩)) <;> simp [all]
  | @quit now current p a b h =>
    refine Or.inr (Or.inr (Or.inr (Or.inl ⟨a, p, b ++ current.toList, rfl, h, rfl, ?_, ?_⟩))) <;> simp [all]
  | wait hlater hbusy hdue => exact Or.inr (Or.inr (Or.inr (Or.inr ⟨rfl, rfl, hlater, hbusy, hdue⟩)))

theorem mem_middle {a b : List (Phase ρ)} {p p' q : Phase ρ} (h : q ∈ a ++ p' :: b) : q = p' ∨ q ∈ a ++ p :: b := by
  rcases List.mem_append.mp h with h | h
  · exact Or.inr (List.mem_append_left _ h)
  · rcases List.mem_cons.mp h with rfl | h
    · exact Or.inl rfl
    · exact Or.inr (List.mem_append_right a (List.mem_cons_of_mem p h))

theorem sublist_middle (a : List (Phase ρ)) (p : Phase ρ) (b : List (Phase ρ)) : (a ++ b).Sublist (a ++ p :: b) :=
  (List.sublist_cons_self p b).append_left a

/-! ### Punctual loops -/

/-- A check under way has begun and not ended, and the next one is due within an interval of its beginning. -/
def Punctual (interval timeout now : Nat) : Phase ρ → Prop
  | .checking c next =>
    next ≤ c.started + interval ∧ c.started ≤ now ∧ now ≤ c.ends ∧ c.ends ≤ c.started + timeout
  | _ => True

theorem punctual_begin (interval timeout now : Nat) :
    Punctual interval timeout now (Phase.begin now interval : Phase ρ) := by
  unfold Phase.begin
  split <;> trivial

theorem punctual_opening (l : Loops ρ) : Punctual interval timeout now (l.opening now interval timeout) := by
  unfold opening
  split
  · trivial
  · exact punctual_begin interval timeout now

theorem Goes.punctual {p' : Phase ρ} (h : Goes interval timeout now p d p') : Punctual interval timeout now p' := by
  cases h with
  | restarted h => exact punctual_begin interval timeout now
  | due h hstarted hends htimeout hearliest hlatest =>
    subst hstarted
    exact ⟨hlatest, Nat.le_refl _, hends, htimeout⟩
  | checked h => trivial

theorem Step.punctual (h : Step interval timeout s d s') (hs : ∀ p ∈ s.2.all, Punctual interval timeout s.1 p) :
    ∀ p ∈ s'.2.all, Punctual interval timeout s'.1 p := by
  intro q hq
  rcases h.cases_all with ⟨-, rfl⟩ | ⟨-, rfl⟩ | ⟨a, p, b, p', hgoes, hnow, hall, hall'⟩ |
    ⟨a, p, b, -, -, hnow, hall, hall'⟩ | ⟨-, hsame, hlater, -, hdue⟩
  · simp only [all_start, List.mem_append, List.mem_singleton] at hq
    rcases hq with hq | rfl
    · exact hs q hq
    · exact punctual_opening s.2
  · exact hs q (by simpa using hq)
  · rw [hnow]
    rw [hall'] at hq
    rcases mem_middle (p := p) hq with rfl | hq
    · exact hgoes.punctual
    · exact hs q (hall ▸ hq)
  · rw [hnow]
    rw [hall'] at hq
    exact hs q (hall ▸ (sublist_middle a p b).mem hq)
  · rw [hsame] at hq
    have hq' := hs q hq
    cases q with
    | checking c next =>
      obtain ⟨hnext, hstarted, hends, htimeout⟩ := hq'
      exact ⟨hnext, Nat.le_trans hstarted hlater, hdue _ hq c.ends _ rfl, htimeout⟩
    | _ => trivial

/-- The loops of a node that begins unstarted are punctual. -/
theorem Run.punctual (h : Run interval timeout s ds s') (hs : ∀ p ∈ s.2.all, Punctual interval timeout s.1 p) :
    ∀ p ∈ s'.2.all, Punctual interval timeout s'.1 p := by
  induction h with
  | refl => exact hs
  | tail _ step ih => exact step.punctual ih

theorem punctual_unstarted : ∀ p ∈ (unstarted : Loops ρ).all, Punctual interval timeout now p := by
  intro p hp
  cases hp

end Loops

end Muster
