import Muster.Proofs.Node.Watching

/-! # Checks that do not overlap

No check of a node begins while another one is under way, if the node is only ever started when the loops there are
have come to rest in time (`Patient`). A node whose checks take less than an interval may be started at any time. A node
whose checks may take longer may not: whoever stops it and starts it again does not wait for the check under way. -/

namespace Muster

open Schedule

namespace Loops

variable {ρ : Type} {interval timeout now : Nat} {s s' s'' : Nat × Loops ρ} {d : Option (Deed ρ)} {ds : List (Deed ρ)}
variable {p p' q : Phase ρ} {c : Check ρ} {cs : List (Check ρ)}

/-! ### Lists -/

theorem pairwise_middle {α : Type} {R : α → α → Prop} {a b : List α} {x y : α} (h : (a ++ x :: b).Pairwise R)
    (before : ∀ z, R z x → R z y) (behind : ∀ z, R x z → R y z) : (a ++ y :: b).Pairwise R := by
  simp only [List.pairwise_append, List.pairwise_cons, List.mem_cons, forall_eq_or_imp] at h ⊢
  obtain ⟨ha, ⟨hx, hb⟩, hab⟩ := h
  exact ⟨ha, ⟨fun z hz => behind z (hx z hz), hb⟩, fun z hz => ⟨before z (hab z hz).1, (hab z hz).2⟩⟩

/-! ### Loops that yield -/

/-- From when on a loop may have a check under way. -/
def busyFrom? (interval now : Nat) : Phase ρ → Option Nat
  | .restarting t => some (max t now + interval)
  | .waiting due => some (max due now)
  | .checking c _ => some c.started
  | .idle => none

/-- A loop that is cancelled by now has no check under way from `limit` on: its next check is not due when it notices
the token, or is over in time. -/
def Silent (interval timeout now limit : Nat) : Phase ρ → Prop
  | .waiting due => now < due ∨ due = now ∧ timeout < interval ∧ now + timeout ≤ limit
  | .checking c next => c.ends < next ∧ c.ends ≤ limit
  | _ => True

/-- The first check of a loop that is started is due at this time. -/
def firstDue (now interval timeout : Nat) (l : Loops ρ) : Nat :=
  if l.current.isSome then now + timeout + interval else now + interval

/-- Whenever the node is started, the loops there are leave the time from the first check of the new one on to it. -/
def Patient (interval timeout : Nat) (ds : List (Deed ρ)) : Prop :=
  ∀ now l, Deed.started now l ∈ ds → ∀ q ∈ l.all, Silent interval timeout now (l.firstDue now interval timeout) q

/-- The loop `q` was cancelled for `p`, and has no check under way once `p` has. -/
def Yields (interval timeout now : Nat) (q p : Phase ρ) : Prop :=
  ∀ limit, busyFrom? interval now p = some limit → Silent interval timeout now limit q

theorem Silent.mono {limit limit' : Nat} (h : Silent interval timeout now limit q) (hle : limit ≤ limit') :
    Silent interval timeout now limit' q := by
  cases q with
  | waiting due => exact h.imp_right fun ⟨hdue, hshort, hlimit⟩ => ⟨hdue, hshort, Nat.le_trans hlimit hle⟩
  | checking c next => exact ⟨h.1, Nat.le_trans h.2 hle⟩
  | _ => trivial

/-- A loop that is busy later than another one is yielded to by all that yield to that one. -/
theorem Yields.of_le (h : Yields interval timeout now q p)
    (hle : ∀ t', busyFrom? interval now p' = some t' → ∃ t, busyFrom? interval now p = some t ∧ t ≤ t') :
    Yields interval timeout now q p' := by
  intro limit hlimit
  obtain ⟨t, ht, hle⟩ := hle limit hlimit
  exact (h t ht).mono hle

theorem silent_begin (hinterval : 0 < interval) (limit : Nat) :
    Silent interval timeout now limit (Phase.begin now interval : Phase ρ) := by
  rw [begin_of_pos hinterval]
  exact Or.inl (by omega)

theorem busyFrom?_begin (hinterval : 0 < interval) :
    busyFrom? interval now (Phase.begin now interval : Phase ρ) = some (now + interval) := by
  rw [begin_of_pos hinterval]
  exact congrArg some (by omega)

theorem busyFrom?_opening (hinterval : 0 < interval) (l : Loops ρ) :
    busyFrom? interval now (l.opening now interval timeout) = some (l.firstDue now interval timeout) := by
  unfold opening firstDue
  split
  · exact congrArg some (by omega)
  · exact busyFrom?_begin hinterval

/-- A loop that goes on is busy no earlier than before. -/
theorem Goes.yields_to (h : Goes interval timeout now p d p') (hinterval : 0 < interval)
    (hp : Punctual interval timeout now p) (hq : Yields interval timeout now q p) :
    Yields interval timeout now q p' := by
  refine hq.of_le fun t' ht' => ?_
  cases h with
  | @restarted t h =>
    rw [busyFrom?_begin hinterval] at ht'
    cases ht'
    exact ⟨_, rfl, by omega⟩
  | due h hstarted hends htimeout hearliest hlatest =>
    cases ht'
    exact ⟨_, rfl, by omega⟩
  | checked h =>
    cases ht'
    exact ⟨_, rfl, Nat.le_trans hp.2.1 (Nat.le_max_right _ _)⟩

/-- A cancelled loop that goes on is as silent as before. -/
theorem Goes.silent (h : Goes interval timeout now p d p') (hinterval : 0 < interval)
    (hp : Punctual interval timeout now p) {limit : Nat} (hsilent : Silent interval timeout now limit p) :
    Silent interval timeout now limit p' := by
  cases h with
  | restarted h => exact silent_begin hinterval limit
  | due h hstarted hends htimeout hearliest hlatest =>
    rcases hsilent with hlater | ⟨hdue, hshort, hlimit⟩
    · omega
    · exact ⟨by omega, by omega⟩
  | checked h =>
    obtain ⟨hnext, -⟩ := hsilent
    obtain ⟨-, -, hends, -⟩ := hp
    exact Or.inl (by omega)

/-- As time goes by a cancelled loop with a check under way yields as before. -/
theorem Yields.later {now' : Nat} (h : Yields interval timeout now q p) (hlater : now ≤ now')
    (hbusy : Phase.check? q ≠ none) : Yields interval timeout now' q p := by
  have hle : ∀ t', busyFrom? interval now' p = some t' → ∃ t, busyFrom? interval now p = some t ∧ t ≤ t' := by
    intro t' ht'
    cases p with
    | idle => cases ht'
    | checking c next => exact ⟨_, rfl, by cases ht'; omega⟩
    | restarting t => exact ⟨_, rfl, by cases ht'; omega⟩
    | waiting t => exact ⟨_, rfl, by cases ht'; omega⟩
  intro limit hlimit
  obtain ⟨t, ht, hle⟩ := hle limit hlimit
  cases q with
  | checking c next => exact ⟨(h t ht).1, Nat.le_trans (h t ht).2 hle⟩
  | _ => exact absurd rfl hbusy

/-! ### Checks that are apart -/

/-- The checks that began are apart, and will be. -/
structure Spaced (interval timeout : Nat) (s : Nat × Loops ρ) (cs : List (Check ρ)) : Prop where
  punctual : ∀ p ∈ s.2.all, Punctual interval timeout s.1 p
  /-- Each loop yields to those that were started after it. -/
  yielding : s.2.all.Pairwise (Yields interval timeout s.1)
  /-- A check that began is over, or a loop has it under way. -/
  known : ∀ c ∈ cs, c.ends ≤ s.1 ∨ ∃ next, Phase.checking c next ∈ s.2.all
  /-- No check began before an earlier one was over. -/
  apart : cs.Pairwise fun a b => a.ends ≤ b.started

/-- Every check that began is over when the next one begins. -/
theorem Spaced.settled {a b : List (Phase ρ)} {due next : Nat} (hs : Spaced interval timeout s cs)
    (hall : s.2.all = a ++ .waiting due :: b)
    (hgoes : Goes interval timeout s.1 (.waiting due) (some (.began c)) (.checking c next)) (htimeout : 0 < timeout) :
    ∀ x ∈ cs, x.ends ≤ s.1 := by
  intro x hx
  rcases hs.known x hx with hover | ⟨next, hbusy⟩
  · exact hover
  · have hpunctual := hs.punctual _ hbusy
    have hyield := hs.yielding
    rw [hall] at hbusy hyield
    obtain ⟨-, hbehind, hbefore⟩ := List.pairwise_append.mp hyield
    have hdue : due ≤ s.1 := by
      cases hgoes
      assumption
    rcases List.mem_append.mp hbusy with hbusy | hbusy
    · -- The check is of an earlier loop, which yields to the one whose check is due.
      have hsilent := hbefore _ hbusy _ List.mem_cons_self (max due s.1) rfl
      exact Nat.le_trans hsilent.2 (by omega)
    · rcases List.mem_cons.mp hbusy with hbusy | hbusy
      · cases hbusy
      · -- The check is of a later loop, to which the one whose check is due would have yielded.
        rcases (List.pairwise_cons.mp hbehind).1 _ hbusy _ rfl with hlater | ⟨-, -, hlimit⟩
        · omega
        · have hstarted := hpunctual.2.1
          omega

theorem Spaced.start (hinterval : 0 < interval) (hs : Spaced interval timeout s cs)
    (hpatient : ∀ q ∈ s.2.all, Silent interval timeout s.1 (s.2.firstDue s.1 interval timeout) q) :
    Spaced interval timeout (s.1, s.2.start s.1 interval timeout) cs where
  punctual := (Step.start s.1 s.2).punctual hs.punctual
  yielding := by
    rw [all_start, List.pairwise_append]
    refine ⟨hs.yielding, List.pairwise_singleton _ _, fun q hq p hp limit hlimit => ?_⟩
    rw [List.mem_singleton.mp hp, busyFrom?_opening hinterval s.2] at hlimit
    cases hlimit
    exact hpatient q hq
  known := fun x hx => (hs.known x hx).imp_right fun ⟨next, h⟩ => ⟨next, List.mem_append_left _ h⟩
  apart := hs.apart

theorem Spaced.goes {a b : List (Phase ρ)} (hinterval : 0 < interval) (htimeout : 0 < timeout)
    (hs : Spaced interval timeout s cs) (hgoes : Goes interval timeout s.1 p d p') (hnow : s'.1 = s.1)
    (hall : s.2.all = a ++ p :: b) (hall' : s'.2.all = a ++ p' :: b) :
    Spaced interval timeout s' (cs ++ begun d.toList) where
  punctual := by
    intro q hq
    rw [hnow]
    rw [hall'] at hq
    rcases mem_middle (p := p) hq with rfl | hq
    · exact hgoes.punctual
    · exact hs.punctual q (hall ▸ hq)
  yielding := by
    have hp := hs.punctual p (hall ▸ List.mem_append_right a List.mem_cons_self)
    rw [hall', hnow]
    exact pairwise_middle (hall ▸ hs.yielding) (fun _ hq => hgoes.yields_to hinterval hp hq)
      fun _ hq limit hlimit => hgoes.silent hinterval hp (hq limit hlimit)
  known := by
    have kept : ∀ x next, Phase.checking x next ∈ s.2.all → p ≠ .checking x next →
        Phase.checking x next ∈ s'.2.all := by
      intro x next hx hne
      rw [hall] at hx
      rw [hall']
      exact (mem_middle (p := p') hx).resolve_left (Ne.symm hne)
    rw [hnow]
    intro x hx
    rcases List.mem_append.mp hx with hx | hx
    · rcases hs.known x hx with hover | ⟨next, hbusy⟩
      · exact Or.inl hover
      · by_cases hp : p = .checking x next
        · subst hp
          cases hgoes
          exact Or.inl ‹_›
        · exact Or.inr ⟨next, kept x next hbusy hp⟩
    · cases hgoes with
      | restarted h => cases hx
      | checked h => cases hx
      | due h hstarted hends htimeout hearliest hlatest =>
        obtain rfl := List.mem_singleton.mp hx
        exact Or.inr ⟨_, hall' ▸ List.mem_append_right a List.mem_cons_self⟩
  apart := by
    cases hgoes with
    | restarted h =>
      rw [append_begun rfl]
      exact hs.apart
    | checked h =>
      rw [append_begun rfl]
      exact hs.apart
    | @due t next c h hstarted hends hshort hearliest hlatest =>
      refine List.pairwise_append.mpr ⟨hs.apart, List.pairwise_singleton _ _, fun x hx y hy => ?_⟩
      obtain rfl := List.mem_singleton.mp hy
      rw [hstarted]
      exact hs.settled hall (.due h hstarted hends hshort hearliest hlatest) htimeout x hx

/-- Nothing that can happen lets two checks overlap, if a start is patient. -/
theorem Step.spaced (hinterval : 0 < interval) (htimeout : 0 < timeout) (h : Step interval timeout s d s')
    (hpatient : Patient interval timeout d.toList) (hs : Spaced interval timeout s cs) :
    Spaced interval timeout s' (cs ++ begun d.toList) := by
  rcases h.cases_all with ⟨rfl, rfl⟩ | ⟨rfl, rfl⟩ | ⟨a, p, b, p', hgoes, hnow, hall, hall'⟩ |
    ⟨a, p, b, rfl, hidle, hnow, hall, hall'⟩ | ⟨rfl, hsame, hlater, hbusy, -⟩
  · rw [append_begun rfl]
    exact hs.start hinterval (hpatient s.1 s.2 List.mem_cons_self)
  · rw [append_begun rfl]
    obtain ⟨hpunctual, hyielding, hknown, hapart⟩ := hs
    constructor <;> simpa
  · exact hs.goes hinterval htimeout hgoes hnow hall hall'
  · rw [append_begun rfl]
    refine ⟨h.punctual hs.punctual, ?_, fun x hx => ?_, hs.apart⟩
    · rw [hall', hnow]
      exact (hall ▸ hs.yielding).sublist (sublist_middle a p b)
    · rw [hall', hnow]
      refine (hs.known x hx).imp_right fun ⟨next, hx⟩ => ⟨next, ?_⟩
      rw [hall, List.mem_append, List.mem_cons] at hx
      rcases hx with hx | rfl | hx
      · exact List.mem_append_left _ hx
      · cases hidle
      · exact List.mem_append_right a hx
  · rw [append_begun rfl]
    refine ⟨h.punctual hs.punctual, ?_, fun x hx => ?_, hs.apart⟩
    · -- Every loop but the last is cancelled, and so has a check under way.
      obtain ⟨hcancelled, hcurrent, hacross⟩ := List.pairwise_append.mp hs.yielding
      have cancelled : ∀ q ∈ s.2.cancelled, ∀ p, Yields interval timeout s.1 q p → Yields interval timeout s'.1 q p :=
        fun q hq p hyields => hyields.later hlater (hbusy q hq)
      rw [hsame, all, List.pairwise_append]
      refine ⟨hcancelled.imp_of_mem fun hq _ => cancelled _ hq _, ?_, fun q hq p hp => cancelled q hq p (hacross q hq p hp)⟩
      cases s.2.current with
      | none => exact List.Pairwise.nil
      | some p => exact List.pairwise_singleton _ _
    · rw [hsame]
      exact (hs.known x hx).imp_left fun hover => Nat.le_trans hover hlater

theorem Run.spaced (hinterval : 0 < interval) (htimeout : 0 < timeout) (h : Run interval timeout s ds s')
    (hpatient : Patient interval timeout ds) (hs : Spaced interval timeout s []) :
    Spaced interval timeout s' (begun ds) := by
  induction h with
  | refl => exact hs
  | tail _ step ih =>
    rw [begun_append]
    have hbefore := ih fun now l hl => hpatient now l (List.mem_append_left _ hl)
    exact step.spaced hinterval htimeout (fun now l hl => hpatient now l (List.mem_append_right _ hl)) hbefore

theorem spaced_unstarted (interval timeout now : Nat) : Spaced interval timeout (now, (unstarted : Loops ρ)) [] where
  punctual := punctual_unstarted
  yielding := List.Pairwise.nil
  known := fun _ hc => by cases hc
  apart := List.Pairwise.nil

/-! ### Short checks -/

/-- A loop that is never late: its next check is due yet, and the one under way ends before that. -/
def OnTime (now : Nat) : Phase ρ → Prop
  | .waiting due => now ≤ due
  | .checking c next => c.ends < next
  | _ => True

/-- Loops whose checks take less than an interval are never late. -/
theorem Step.onTime (hshort : timeout < interval) (h : Step interval timeout s d s')
    (hpunctual : ∀ p ∈ s.2.all, Punctual interval timeout s.1 p) (hs : ∀ p ∈ s.2.all, OnTime s.1 p) :
    ∀ p ∈ s'.2.all, OnTime s'.1 p := by
  have begins (t : Nat) : OnTime t (Phase.begin t interval : Phase ρ) := by
    unfold Phase.begin
    split
    · trivial
    · exact Nat.le_add_right t interval
  intro q hq
  rcases h.cases_all with ⟨-, rfl⟩ | ⟨-, rfl⟩ | ⟨a, p, b, p', hgoes, hnow, hall, hall'⟩ |
    ⟨a, p, b, -, -, hnow, hall, hall'⟩ | ⟨-, hsame, hlater, -, hdue⟩
  · simp only [all_start, List.mem_append, List.mem_singleton] at hq
    rcases hq with hq | rfl
    · exact hs q hq
    · unfold opening
      split
      · trivial
      · exact begins s.1
  · exact hs q (by simpa using hq)
  · rw [hnow]
    rw [hall'] at hq
    rcases mem_middle (p := p) hq with rfl | hq
    · have hmem : p ∈ s.2.all := hall ▸ List.mem_append_right a List.mem_cons_self
      have hp := hs p hmem
      have hp' := hpunctual p hmem
      cases hgoes with
      | restarted h => exact begins s.1
      | due h hstarted hends htimeout hearliest hlatest =>
        simp only [OnTime] at hp ⊢
        omega
      | checked h =>
        simp only [OnTime, Punctual] at hp hp' ⊢
        omega
    · exact hs q (hall ▸ hq)
  · rw [hnow]
    rw [hall'] at hq
    exact hs q (hall ▸ (sublist_middle a p b).mem hq)
  · rw [hsame] at hq
    cases q with
    | waiting due => exact hdue _ hq due _ rfl
    | checking c next => exact hs _ hq
    | _ => trivial

theorem silent_of_onTime (hshort : timeout < interval) (hp : Punctual interval timeout now p) (h : OnTime now p)
    {limit : Nat} (hlimit : now + interval ≤ limit) : Silent interval timeout now limit p := by
  cases p with
  | waiting due =>
    simp only [OnTime] at h
    simp only [Silent]
    omega
  | checking c next =>
    obtain ⟨-, hstarted, -, hends⟩ := hp
    exact ⟨h, by omega⟩
  | _ => trivial

theorem Run.onTime (hshort : timeout < interval) (h : Run interval timeout s ds s')
    (hpunctual : ∀ p ∈ s.2.all, Punctual interval timeout s.1 p) (hs : ∀ p ∈ s.2.all, OnTime s.1 p) :
    ∀ p ∈ s'.2.all, OnTime s'.1 p := by
  induction h with
  | refl => exact hs
  | tail run step ih => exact step.onTime hshort (run.punctual hpunctual) ih

/-- A node whose checks take less than an interval can be started at any time. -/
theorem Run.patient (hshort : timeout < interval) (h : Run interval timeout s ds s')
    (hpunctual : ∀ p ∈ s.2.all, Punctual interval timeout s.1 p) (hs : ∀ p ∈ s.2.all, OnTime s.1 p) :
    Patient interval timeout ds := by
  induction h with
  | refl => intro now l hl; cases hl
  | @tail s' _ _ _ run step ih =>
    intro now l hl
    rcases List.mem_append.mp hl with hl | hl
    · exact ih now l hl
    · obtain rfl := Option.mem_toList.mp hl
      intro q hq
      have hstate : s' = (now, l) := by
        cases step with
        | start => rfl
        | go h => cases h
        | linger h => cases h
      subst hstate
      refine silent_of_onTime hshort (run.punctual hpunctual q hq) (run.onTime hshort hpunctual hs q hq) ?_
      unfold firstDue
      split <;> omega

end Loops

namespace Node

open Loops

/-- The loops of a node that was just made are none. -/
theorem loops_make {name url version : String} {policy : Policy} {moment : Nat} {n : Node}
    (h : Node.make name url version policy moment = .ok n) : n.policy = policy ∧ n.loops = .unstarted ∧ n.Regular := by
  unfold Node.make at h
  split at h
  · cases h
  · cases h
    exact ⟨rfl, rfl, fun c next hc => by cases hc⟩

/-- No check of a node begins while an earlier one is under way, whatever its loops do and however long its worker takes,
as long as the node is started patiently; which it always is if a check takes less than an interval. What can be done
with a node, its loops do. -/
theorem checks_apart {name url version : String} {policy : Policy} {moment : Nat} {n : Node}
    (hmake : Node.make name url version policy moment = .ok n) (hinterval : 0 < policy.interval.nanos)
    (htimeout : 0 < policy.timeout.nanos) :
    (∀ (now : Nat) (ds : List (Deed Pending)) (s : Nat × Loops Pending),
      Run policy.interval.nanos policy.timeout.nanos (now, unstarted) ds s →
      (policy.timeout.nanos < policy.interval.nanos → Patient policy.interval.nanos policy.timeout.nanos ds) ∧
      (Patient policy.interval.nanos policy.timeout.nanos ds → (begun ds).Pairwise fun a b => a.ends ≤ b.started)) ∧
    ∀ (net : Network) (clock : Clock) (acts : List Act),
      Run policy.interval.nanos policy.timeout.nanos (clock.now, unstarted) (deeds (net, clock, n) acts)
        ((live (net, clock, n) acts).2.1.now, (live (net, clock, n) acts).2.2.loops) := by
  obtain ⟨hpolicy, hloops, hregular⟩ := loops_make hmake
  refine ⟨fun now ds s hrun => ⟨fun hshort => ?_, fun hpatient => ?_⟩, fun net clock acts => ?_⟩
  · exact hrun.patient hshort punctual_unstarted fun p hp => by cases hp
  · exact (hrun.spaced hinterval htimeout hpatient (spaced_unstarted _ _ now)).apart
  · have hrun := (run_live (s := (net, clock, n)) acts (hpolicy ▸ hinterval) hregular).1
    rw [show (net, clock, n).2.2 = n from rfl, hpolicy, hloops] at hrun
    exact hrun

/-- One host, which answers after five thousand nanoseconds. -/
def slowHost : Network where
  connected := true
  services := [("[::1]:81", .stub (.empty 200) 5000)]
  engines := []
  engineOf := []
  arrived := []

/-- The node of that host, if its checks may take a thousand nanoseconds. -/
def slowNode (interval : Nat) : Except ClientError Node :=
  Node.make "w1" "http://[::1]:81" "v1" ⟨"secret", "v1", ⟨interval⟩, ⟨1000⟩⟩ 0

/-- A node is started, stopped after some time, started again at once, and left alone. -/
def hastily (span : Nat) : List Act := [.start, .pass span, .stop, .start, .pass (span + 500)]

/-- When the checks of a node begin and end. -/
def spans (s : Network × Clock × Node) (acts : List Act) : List (Nat × Nat) :=
  (begun (deeds s acts)).map fun c => (c.started, c.ends)

/-- An interval of three thousand nanoseconds is long enough for a check of one thousand. -/
theorem checks_apart_short : ∃ n, slowNode 3000 = .ok n ∧
    spans (slowHost, .start, n) (hastily 3000) = [(3000, 4000), (6000, 7000)] ∧
    (begun (deeds (slowHost, .start, n) (hastily 3000))).Pairwise fun a b => a.ends ≤ b.started := by
  have hspans : (slowNode 3000).toOption.map (fun n => spans (slowHost, .start, n) (hastily 3000)) =
      some [(3000, 4000), (6000, 7000)] := by decide +kernel
  cases hmake : slowNode 3000 with
  | error e =>
    rw [hmake] at hspans
    cases hspans
  | ok n =>
    rw [hmake] at hspans
    obtain ⟨hruns, hlive⟩ := checks_apart (show Node.make _ _ _ _ _ = _ from hmake) (by decide) (by decide)
    obtain ⟨hpatient, hapart⟩ := hruns _ _ _ (hlive slowHost .start (hastily 3000))
    exact ⟨n, rfl, Option.some.inj hspans, hapart (hpatient (by decide))⟩

/-- With an interval of five hundred nanoseconds, a node that is stopped during a check and started again begins its next
one while the other is under way. -/
theorem checks_overlap : ∃ n, slowNode 500 = .ok n ∧
    spans (slowHost, .start, n) (hastily 600) = [(500, 1500), (1100, 2100)] ∧
    ¬ (begun (deeds (slowHost, .start, n) (hastily 600))).Pairwise fun a b => a.ends ≤ b.started := by
  have hspans : (slowNode 500).toOption.map (fun n => spans (slowHost, .start, n) (hastily 600)) =
      some [(500, 1500), (1100, 2100)] := by decide +kernel
  cases hmake : slowNode 500 with
  | error e =>
    rw [hmake] at hspans
    cases hspans
  | ok n =>
    rw [hmake] at hspans
    have hspans : spans (slowHost, .start, n) (hastily 600) = [(500, 1500), (1100, 2100)] := Option.some.inj hspans
    refine ⟨n, rfl, hspans, fun hapart => ?_⟩
    have hmap : (spans (slowHost, .start, n) (hastily 600)).Pairwise fun a b => a.2 ≤ b.1 := List.pairwise_map.mpr hapart
    rw [hspans] at hmap
    revert hmap
    decide

end Node

end Muster
