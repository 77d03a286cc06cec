import Mathlib.Data.List.Induction
import Muster.Proofs.Node.Freshness

/-! # What the outcomes of checks tell

What is known of a worker after some outcomes of its checks: the version and the moment of the last check that succeeded,
and the text of the last check if it failed. Before there are any, it is what the worker registered with. -/

namespace Muster

namespace Health

/-- What a check came to, and the moment at which that was taken. -/
structure Outcome where
  moment : Nat
  result : Except ClusterError String

namespace Outcome

/-- The version that a check told. -/
def version? (o : Outcome) : Option String :=
  match o.result with
  | .ok version => some version
  | .error _ => none

/-- When a check told a version. -/
def seen? (o : Outcome) : Option Nat := o.version?.map fun _ => o.moment

/-- The text of a check that failed. -/
def failure? (o : Outcome) : Option String :=
  match o.result with
  | .ok _ => none
  | .error e => some e.text

end Outcome

/-- Takes an outcome. -/
def take (h : Health) (o : Outcome) : Health := h.record o.moment o.result

/-- What is known of a worker that registered, after some outcomes of its checks. -/
structure After (registered : Nat) (version : String) (os : List Outcome) (h : Health) : Prop where
  version : h.version = (os.filterMap Outcome.version?).getLast?.getD version
  lastSeen : h.lastSeen = (os.filterMap Outcome.seen?).getLast?.getD registered
  error : h.error = os.getLast?.bind Outcome.failure?

variable {h : Health} {os : List Outcome}

/-- A success tells version and moment, and ends a failure; a failure tells its text alone. -/
theorem After.take {registered : Nat} {version : String} (ha : After registered version os h) (o : Outcome) :
    After registered version (os ++ [o]) (h.take o) := by
  obtain ⟨hversion, hseen, -⟩ := ha
  obtain ⟨moment, result⟩ := o
  cases result with
  | ok told => exact ⟨by simp [Health.take, record, Outcome.version?],
      by simp [Health.take, record, Outcome.seen?, Outcome.version?],
      by simp [Health.take, record, Outcome.failure?]⟩
  | error e => exact ⟨by simpa [Health.take, record, Outcome.version?] using hversion,
      by simpa [Health.take, record, Outcome.seen?, Outcome.version?] using hseen,
      by simp [Health.take, record, Outcome.failure?]⟩

theorem after_foldl (registered : Nat) (version : String) (os : List Outcome) :
    After registered version os (os.foldl Health.take (.registered registered version)) := by
  induction os using List.reverseRecOn with
  | nil => exact ⟨rfl, rfl, rfl⟩
  | append_singleton os o ih =>
    rw [List.foldl_append]
    exact ih.take o

/-- A worker was last seen when it was before, or when an outcome was taken. -/
theorem lastSeen_mem (h : Health) (os : List Outcome) :
    (os.foldl Health.take h).lastSeen ∈ h.lastSeen :: os.map Outcome.moment := by
  induction os generalizing h with
  | nil => exact List.mem_cons_self
  | cons o os ih =>
    rcases List.mem_cons.mp (ih (h.take o)) with hsame | hlater
    · rw [List.foldl_cons, hsame]
      obtain ⟨moment, result⟩ := o
      cases result with
      | ok told => exact List.mem_cons_of_mem _ List.mem_cons_self
      | error e => exact List.mem_cons_self
    · exact List.mem_cons_of_mem _ (List.mem_cons_of_mem _ hlater)

/-- Where the moments do not go back, neither does the time at which the worker was last seen. -/
theorem lastSeen_le {os' : List Outcome}
    (hmoments : (h.lastSeen :: (os ++ os').map Outcome.moment).Pairwise (· ≤ ·)) :
    (os.foldl Health.take h).lastSeen ≤ ((os ++ os').foldl Health.take h).lastSeen := by
  rw [List.foldl_append]
  rcases List.mem_cons.mp (lastSeen_mem (os.foldl Health.take h) os') with hsame | hlater
  · exact Nat.le_of_eq hsame.symm
  · rw [List.map_append, ← List.cons_append] at hmoments
    exact (List.pairwise_append.mp hmoments).2.2 _ (lastSeen_mem h os) _ hlater

theorem isReady_iff {clusterVersion : String} :
    h.isReady clusterVersion = true ↔ h.error = none ∧ h.version = clusterVersion := by
  simp [isReady]

end Health

namespace Node

/-- The row of a node tells which node it is and what is known of it. -/
theorem row_congr {a b : Node} (hidentity : a.identity = b.identity) (hhealth : a.health = b.health) :
    a.row = b.row := by
  obtain ⟨hname, hurl, -, hpolicy⟩ := eq_of_identity hidentity
  unfold row isReady
  rw [hname, hurl, hpolicy, hhealth]

/-- The outcome that is found. -/
def Finding.told (f : Finding) : Health.Outcome := ⟨f.moment, f.outcome⟩

theorem foldl_told (fs : List Finding) (h : Health) :
    (fs.map Finding.told).foldl Health.take h = fs.foldl Finding.take h := List.foldl_map

end Node

end Muster
