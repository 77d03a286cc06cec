import Muster.Proofs.Credential
import Muster.Proofs.Roster.Operation
import Muster.Proofs.Text.Trimming

/-! # Texts of failures

An operation fails because a credential breaks a rule, or because some members failed. Its text is never blank, whatever
the members have told; so it comes through where the blanks around a text are cut, and blank texts do not count. -/

namespace Muster

/-! ### Errors of operations -/

namespace ClusterError

/-- An error that is not what a worker has told, nor the failure of no members at all. -/
def isOwn : ClusterError → Bool
  | .worker _ | .broadcast [] => false
  | _ => true

theorem any_intercalate {p : Char → Bool} {s : String} (h : s.toList.any p = true) (sep : String) (l : List String) :
    (sep.intercalate (s :: l)).toList.any p = true := by
  rw [String.toList_intercalate]
  cases l with
  | nil => simpa using h
  | cons t l => simp [h]

theorem trimmed_text {e : ClusterError} (h : e.isOwn = true) : Text.trimmed e.text ≠ "" := by
  have front {a b : String} (ha : a.toList.any (!Text.isBlank ·) = true) : Text.trimmed (a ++ b) ≠ "" := by
    refine Text.trimmed_ne_empty ?_
    rw [String.toList_append, List.any_append, ha]
    rfl
  cases e with
  | worker t => cases h
  | unauthorized => exact Text.trimmed_ne_empty (by decide)
  | notReady => exact Text.trimmed_ne_empty (by decide)
  | nodeNotFound name => exact front (by decide)
  | missingArgument name =>
    have hrear : " is required".toList.any (!Text.isBlank ·) = true := by decide
    refine Text.trimmed_ne_empty ?_
    show (name ++ " is required").toList.any (!Text.isBlank ·) = true
    rw [String.toList_append, List.any_append, hrear, Bool.or_true]
  | missingParameter name => exact front (by decide)
  | invalidParameter name => exact front (by decide)
  | unsupportedStorageType kind => exact front (by decide)
  | timeout limit => exact front (by decide)
  | broadcast failures =>
    cases failures with
    | nil => cases h
    | cons f failures =>
      have hfirst : f.text.toList.any (!Text.isBlank ·) = true := by
        unfold NodeFailure.text
        simp [Text.isBlank]
      exact Text.trimmed_ne_empty (any_intercalate hfirst ";\n" (failures.map NodeFailure.text))

end ClusterError

namespace Credential

/-- The rule that a credential breaks. -/
theorem own_register (c : Credential) : ∀ e, c.register = .error e → e.isOwn = true := by
  intro e h
  rcases register_eq_error h with rfl | rfl | ⟨key, rfl | rfl⟩ <;> rfl

end Credential

namespace Roster

theorem own_verdict {α : Type} {action : String} {told : List (Told α)} {e : ClusterError}
    (h : verdict action told = .error e) : e.isOwn = true := by
  unfold verdict at h
  dsimp only at h
  split at h
  · cases h
  · obtain rfl := Except.error.inj h
    cases hfailures : failures action told with
    | nil =>
      rename_i hne
      exact absurd (hfailures ▸ rfl) hne
    | cons f failures => rfl

theorem own_mutate {r : Roster} {net : Network} {limit : Nat} {m : Mutation} {e : ClusterError}
    (h : (r.mutate net limit m).2.outcome = .error e) : e.isOwn = true := by
  cases hcall : m.call with
  | error e' =>
    rw [r.mutate_eq_refused hcall] at h
    obtain rfl := Except.error.inj h
    cases m with
    | registerStorage c => exact c.own_register _ (map_eq_error hcall)
    | load name => cases hcall
    | unload name => cases hcall
    | unregisterStorage name => cases hcall
  | ok call =>
    rw [r.mutate_eq_broadcast hcall] at h
    exact own_verdict h

theorem own_storages {r : Roster} {net : Network} {limit : Nat} {e : ClusterError}
    (h : (r.storages net limit).2.outcome = .error e) : e.isOwn = true :=
  own_verdict (map_eq_error h)

end Roster

end Muster
