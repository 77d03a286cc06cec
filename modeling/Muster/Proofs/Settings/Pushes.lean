import Muster.Settings.Worker

/-! # Settings that are pushed again

A push replaces all that a worker shares and nothing else, so of many pushes the last one counts. What the worker
comes to share has the provider of the cluster's secret once, in front of the pushed providers that are not of its
name. A worker that is pushed what it has keeps it. -/

namespace Muster.Settings.Worker

/-! ### The provider of the secret -/

variable {providers : List AuthProvider}

/-- Behind the provider of the secret stands what was pushed without its name. -/
theorem filter_ne_withSecretProvider :
    (withSecretProvider providers).filter (·.name ≠ secretHeader) = providers.filter (·.name ≠ secretHeader) := by
  rw [withSecretProvider, List.filter_cons_of_neg (by simp [secretProvider]), List.filter_filter]
  simp only [Bool.and_self]

/-- No other provider has the name of the secret's one. -/
theorem filter_eq_withSecretProvider :
    (withSecretProvider providers).filter (·.name = secretHeader) = [secretProvider] := by
  rw [withSecretProvider, List.filter_cons_of_pos (by simp [secretProvider]), List.filter_filter]
  simp

theorem withSecretProvider_idem : withSecretProvider (withSecretProvider providers) = withSecretProvider providers :=
  congrArg (secretProvider :: ·) filter_ne_withSecretProvider

/-! ### One push after another -/

variable {w : Worker} {common pushed : CommonSettings}

/-- A push does not look at what the worker shared before. -/
theorem apply_of_common : { w with common }.apply pushed = w.apply pushed :=
  rfl

/-- Pushes change nothing but what the worker shares. -/
theorem foldl_apply (w : Worker) (pushes : List CommonSettings) :
    ∃ common, pushes.foldl apply w = { w with common } := by
  induction pushes generalizing w with
  | nil => exact ⟨w.common, rfl⟩
  | cons pushed pushes ih =>
    obtain ⟨common, hcommon⟩ := ih (w.apply pushed)
    exact ⟨common, hcommon⟩

/-- Of many pushes the last one counts. -/
theorem foldl_apply_snoc (w : Worker) (pushes : List CommonSettings) (last : CommonSettings) :
    (pushes ++ [last]).foldl apply w = w.apply last := by
  obtain ⟨common, hcommon⟩ := foldl_apply w pushes
  rw [List.foldl_append, hcommon]
  exact apply_of_common

/-- Who has taken over an auth summary keeps it when it comes with a push. -/
theorem auth_apply_again (w : Worker) (pushed again : CommonSettings) (h : again.auth = (w.apply pushed).common.auth) :
    ((w.apply pushed).apply again).common = again := by
  have hproviders : withSecretProvider again.auth.providers = again.auth.providers := by
    rw [h]
    exact withSecretProvider_idem
  show { again with auth := { again.auth with providers := withSecretProvider again.auth.providers } } = again
  rw [hproviders]

/-- After any pushes a worker has what the last one makes of it. Its own settings are those of the start, and what it
shares is what the last push says, with the secret's provider in front of the providers of other names, alone of its
name. A later push with the auth summary that the worker has come to leaves the summary as it is, and pushing all that
it shares changes nothing. -/
theorem foldl_apply_last (w : Worker) (pushes : List CommonSettings) (last : CommonSettings) :
    let v := (pushes ++ [last]).foldl apply w
    v = w.apply last ∧
    (v.bind = w.bind ∧ v.nodeName = w.nodeName ∧ v.nodeUrl = w.nodeUrl ∧ v.managementUrl = w.managementUrl ∧
      v.secret = w.secret ∧ v.clusterTimeoutSecs = w.clusterTimeoutSecs ∧ v.version = w.version ∧
      v.allowParallel = w.allowParallel ∧ v.maxParallelQueries = w.maxParallelQueries) ∧
    v.common = { last with auth := { last.auth with
      providers := ⟨"secret", "x-cluster-secret"⟩ :: last.auth.providers.filter (·.name ≠ "x-cluster-secret") } } ∧
    v.common.auth.providers.filter (·.name = "x-cluster-secret") = [⟨"secret", "x-cluster-secret"⟩] ∧
    (∀ again : CommonSettings,
      (v.apply { again with auth := v.common.auth }).common = { again with auth := v.common.auth }) ∧
    v.apply v.common = v := by
  intro v
  have hv : v = w.apply last := foldl_apply_snoc w pushes last
  rw [hv]
  refine ⟨rfl, ⟨rfl, rfl, rfl, rfl, rfl, rfl, rfl, rfl, rfl⟩, rfl, filter_eq_withSecretProvider, ?_, ?_⟩
  · exact fun again => auth_apply_again w last _ rfl
  · exact congrArg (fun common => { w with common }) (auth_apply_again w last _ rfl)

end Muster.Settings.Worker
