import Muster.Proofs.Credential
import Muster.Proofs.Document.Credential

/-! # The rules of a credential

A check goes through the rules in a fixed order and stops at the first that is broken. All that is wrong with a
credential is a list of errors in that order (`Credential.complaints`), and the check fails with the head of the list.
What the list and the document are made of is the name, the type, the scope and the nine parameters that the document
has. Nothing else of a credential is looked at, so parameters of other names and the order of the parameters change
nothing, and where the type does not ask for a parameter, null is as good as absent. -/

namespace Muster

open Json

namespace Json.Value

variable {key : String}

/-- The value can stand under the parameter: it is null, or it has the parameter's type. -/
def fits (key : String) : Value → Bool
  | .null => true
  | v => v.suits key

/-! ### Fields in any order -/

theorem lookup_filter {p : String × Value → Bool} (hp : ∀ f : String × Value, f.1 = key → p f = true)
    (fields : List (String × Value)) : lookup key (fields.filter p) = lookup key fields := by
  unfold lookup
  rw [List.findRev?_eq_find?_reverse, List.findRev?_eq_find?_reverse, ← List.filter_reverse, List.find?_filter]
  congr 2
  funext f
  by_cases hf : f.1 = key <;> simp [hf, hp]

theorem lookup_eq_some_iff {fields : List (String × Value)} (h : (fields.map (·.1)).Nodup) {v : Value} :
    lookup key fields = some v ↔ (key, v) ∈ fields := by
  induction fields generalizing v with
  | nil => exact ⟨nofun, nofun⟩
  | cons f fields ih =>
    obtain ⟨hfresh, hnodup⟩ := List.nodup_cons.mp h
    rw [lookup_cons, List.mem_cons, Option.or_eq_some_iff, ih hnodup]
    by_cases hf : f.1 = key
    · -- No later field has the name, so this one is found.
      have hlater (w : Value) : (key, w) ∉ fields := fun hw => hfresh (List.mem_map.mpr ⟨_, hw, hf.symm⟩)
      have hnone : lookup key fields = none :=
        Option.eq_none_iff_forall_ne_some.mpr fun w hw => hlater w ((ih hnodup).mp hw)
      simp [hlater, hnone, hf, Prod.ext_iff, eq_comm]
    · have hne : (key, v) ≠ f := fun heq => hf (congrArg Prod.fst heq.symm)
      simp [hf, hne]

theorem lookup_perm {fields fields' : List (String × Value)} (h : (fields.map (·.1)).Nodup)
    (hperm : fields'.Perm fields) : lookup key fields' = lookup key fields := by
  refine Option.ext fun v => ?_
  rw [lookup_eq_some_iff ((hperm.map _).nodup_iff.mpr h), lookup_eq_some_iff h, hperm.mem_iff]

end Json.Value

namespace Credential

variable {α β : Type} {c d : Credential} {key : String} {errors later : List ClusterError}

/-- The parameters that are looked at, in the order in which their types are checked. -/
def parameterKeys : List String :=
  ["KEY_ID", "SECRET", "REGION", "ENDPOINT", "USE_SSL", "URL_STYLE", "URL_COMPATIBILITY_MODE", "KMS_KEY_ID",
    "ACCOUNT_ID"]

/-- The parameters that the type of the credential requires. -/
def required (c : Credential) : List String :=
  (requiredParameters c.kind).getD []

def lacks (c : Credential) (key : String) : Bool :=
  (c.parameter? key).isNone

def misfits (c : Credential) (key : String) : Bool :=
  (c.parameter? key).any fun v => !v.fits key

/-- All that is wrong with a credential, in the order in which it is looked for. -/
def complaints (c : Credential) : List ClusterError :=
  (if c.name = "" then [.missingArgument "name"] else []) ++
  ((if c.kind ∉ ["s3", "gcs", "r2"] then [.unsupportedStorageType c.kind] else []) ++
  ((c.required.filter c.lacks).map .missingParameter ++
  (parameterKeys.filter c.misfits).map .invalidParameter))

/-! ### The first complaint -/

/-- A check reports the errors: it fails with the first of them, and succeeds where there is none. -/
def Reports (errors : List ClusterError) (x : Except ClusterError α) : Prop :=
  ∀ e, x = .error e ↔ errors.head? = some e

theorem Reports.nil (a : α) : Reports [] (.ok a) :=
  fun e => by simp

theorem Reports.bind {x : Except ClusterError α} {f : α → Except ClusterError β} (hx : Reports errors x)
    (hf : ∀ a, Reports later (f a)) : Reports (errors ++ later) (x >>= f) := by
  intro e
  rw [List.head?_append, bind_eq_error_iff, hx e]
  cases x with
  | error e' =>
    have hfirst : errors.head? = some e' := (hx e').mp rfl
    simp [hfirst]
  | ok a =>
    have hnone : errors.head? = none := Option.eq_none_iff_forall_ne_some.mpr fun e h => nomatch (hx e).mpr h
    simp [hnone, hf a e]

/-- Reports of a rule that is broken or not, and of what is checked after it. -/
theorem Reports.rule {p : Prop} [Decidable p] {x : Except ClusterError α} {e : ClusterError}
    (hx : ¬ p → Reports later x) : Reports ((if p then [e] else []) ++ later) (if p then .error e else x) := by
  by_cases hp : p
  · intro e'
    simp [hp]
  · simpa [hp] using hx hp

/-- Looking for the first key that breaks a rule, and what is checked after it. -/
theorem Reports.search {keys : List String} {broken : String → Bool} {error : String → ClusterError}
    {x : Except ClusterError α} (hx : Reports later x) :
    Reports ((keys.filter broken).map error ++ later)
      (match keys.find? broken with | some key => .error (error key) | none => x) := by
  intro e
  rw [List.head?_append, List.head?_map, List.head?_filter]
  cases keys.find? broken with
  | none => simpa using hx e
  | some key => simp

/-- The complaint about the type of one parameter. -/
def complaint (c : Credential) (key : String) : List ClusterError :=
  if c.misfits key then [.invalidParameter key] else []

theorem text_reports (c : Credential) (hkey : isFlag key = false) : Reports (c.complaint key) (c.text key) := by
  intro e
  unfold complaint misfits text
  rcases c.parameter? key with _ | v
  · simp
  · cases v <;> simp [Value.fits, Value.suits, hkey]

theorem flag_reports (c : Credential) (hkey : isFlag key = true) : Reports (c.complaint key) (c.flag key) := by
  intro e
  unfold complaint misfits flag
  rcases c.parameter? key with _ | v
  · simp
  · cases v <;> simp [Value.fits, Value.suits, hkey]

theorem map_filter_misfits (c : Credential) (keys : List String) :
    (keys.filter c.misfits).map ClusterError.invalidParameter = keys.flatMap c.complaint := by
  induction keys with
  | nil => rfl
  | cons key keys ih =>
    rw [List.flatMap_cons, ← ih, complaint, List.filter_cons]
    split <;> rfl

theorem requiredParameters_eq_none_iff {kind : String} :
    requiredParameters kind = none ↔ kind ∉ ["s3", "gcs", "r2"] := by
  unfold requiredParameters
  grind

/-- A check reports what is wrong with the credential. -/
theorem reports_register (c : Credential) : Reports c.complaints c.register := by
  unfold complaints register
  refine .rule fun _ => ?_
  cases hkind : requiredParameters c.kind with
  | none =>
    rw [if_pos (requiredParameters_eq_none_iff.mp hkind)]
    intro e
    simp
  | some required =>
    have hsupported : ¬ c.kind ∉ ["s3", "gcs", "r2"] := by
      intro h
      rw [requiredParameters_eq_none_iff.mpr h] at hkind
      cases hkind
    rw [if_neg hsupported, List.nil_append, Credential.required, hkind, map_filter_misfits]
    refine .search ?_
    refine (text_reports c rfl).bind fun _ => (text_reports c rfl).bind fun _ => (text_reports c rfl).bind fun _ =>
      (text_reports c rfl).bind fun _ => (flag_reports c rfl).bind fun _ => (text_reports c rfl).bind fun _ =>
      (flag_reports c rfl).bind fun _ => (text_reports c rfl).bind fun _ => (text_reports c rfl).bind fun _ => .nil _

/-! ### What a check depends on -/

/-- The parameter is absent or null. -/
def Void (c : Credential) (key : String) : Prop :=
  c.parameter? key = none ∨ c.parameter? key = some .null

/-- The two credentials are alike in what is looked at: they have the same under each of the nine parameters, or
nothing where the type does not ask for it. -/
structure Alike (c d : Credential) : Prop where
  name : d.name = c.name
  kind : d.kind = c.kind
  scope : d.scope = c.scope
  parameters : ∀ key ∈ parameterKeys,
    d.parameter? key = c.parameter? key ∨ key ∉ c.required ∧ c.Void key ∧ d.Void key

theorem text_congr (h : d.parameter? key = c.parameter? key ∨ c.Void key ∧ d.Void key) : d.text key = c.text key := by
  unfold text
  obtain h | ⟨hc | hc, hd | hd⟩ := h
  · rw [h]
  all_goals rw [hc, hd]

theorem flag_congr (h : d.parameter? key = c.parameter? key ∨ c.Void key ∧ d.Void key) : d.flag key = c.flag key := by
  unfold flag
  obtain h | ⟨hc | hc, hd | hd⟩ := h
  · rw [h]
  all_goals rw [hc, hd]

/-- A type requires only parameters of the nine. -/
theorem required_subset (c : Credential) : c.required ⊆ parameterKeys := by
  unfold required requiredParameters
  split
  · decide
  · split <;> decide

theorem Alike.present (h : c.Alike d) (hkey : key ∈ c.required) : d.parameter? key = c.parameter? key :=
  (h.parameters key (required_subset c hkey)).resolve_right fun hoptional => hoptional.1 hkey

theorem Alike.text (h : c.Alike d) (hkey : key ∈ parameterKeys) : d.text key = c.text key :=
  text_congr ((h.parameters key hkey).imp id And.right)

theorem Alike.flag (h : c.Alike d) (hkey : key ∈ parameterKeys) : d.flag key = c.flag key :=
  flag_congr ((h.parameters key hkey).imp id And.right)

/-- Credentials that are alike are checked alike. -/
theorem Alike.register (h : c.Alike d) : d.register = c.register := by
  unfold Credential.register
  rw [h.name, h.kind, h.scope]
  split
  · rfl
  cases hkind : requiredParameters c.kind with
  | none => rfl
  | some required =>
    have hrequired : c.required = required := by rw [Credential.required, hkind, Option.getD_some]
    have hfind : required.find? (fun key => (d.parameter? key).isNone) =
        required.find? (fun key => (c.parameter? key).isNone) := by
      rw [← List.head?_filter, ← List.head?_filter,
        List.filter_congr fun key hkey => by rw [h.present (hrequired ▸ hkey)]]
    simp (disch := decide) only [hfind, h.text, h.flag]

/-- The parameters that are looked at, as they were submitted. -/
def known (parameters : List (String × Value)) : List (String × Value) :=
  parameters.filter fun p => parameterKeys.contains p.1

/-- The order of the parameters does not matter, and neither do those of other names. -/
theorem alike_of_perm {parameters : List (String × Value)} (hperm : (known parameters).Perm (known c.parameters))
    (h : ((known c.parameters).map (·.1)).Nodup) : c.Alike { c with parameters } := by
  refine ⟨rfl, rfl, rfl, fun key hkey => .inl ?_⟩
  have hknown (f : String × Value) (hf : f.1 = key) : parameterKeys.contains f.1 = true := by simpa [hf] using hkey
  calc Value.lookup key parameters = Value.lookup key (known parameters) := (Value.lookup_filter hknown _).symm
    _ = Value.lookup key (known c.parameters) := Value.lookup_perm h hperm
    _ = Value.lookup key c.parameters := Value.lookup_filter hknown _

/-- A check fails if and only if there is something to complain of, with the first complaint. Credentials that are
alike have the same result, and so have those with the same parameters among the nine, in whatever order and with
whatever others. -/
theorem register_reports_first (c : Credential) :
    (∀ e, c.register = .error e ↔ c.complaints.head? = some e) ∧
    (∀ d, c.Alike d → d.register = c.register) ∧
    ∀ parameters, (known parameters).Perm (known c.parameters) → ((known c.parameters).map (·.1)).Nodup →
      { c with parameters }.register = c.register :=
  ⟨reports_register c, fun _ halike => halike.register, fun _ hperm hnodup => (alike_of_perm hperm hnodup).register⟩

/-- A credential whose flag is a text. -/
def wordy : Credential :=
  withFlag "s3" (.string "yes")

/-- The same parameters in the opposite order, with a null that nobody asked for and one that nobody knows. -/
def reordered : List (String × Value) :=
  ("KMS_KEY_ID", .null) :: ("note", .array []) :: wordy.parameters.reverse

theorem register_reports_first_wordy : wordy.register = .error (.invalidParameter "USE_SSL") ∧
    { wordy with parameters := reordered }.register = wordy.register ∧
    { wordy with parameters := reordered.tail }.register = wordy.register := by
  obtain ⟨hreports, halike, hperm⟩ := register_reports_first wordy
  refine ⟨(hreports _).mpr rfl, halike _ ⟨rfl, rfl, rfl, ?_⟩, hperm _ (List.reverse_perm wordy.parameters) (by decide)⟩
  simp only [parameterKeys, List.forall_mem_cons, List.not_mem_nil, false_imp_iff, implies_true, and_true]
  exact ⟨.inl rfl, .inl rfl, .inl rfl, .inl rfl, .inl rfl, .inl rfl, .inl rfl, .inr ⟨by decide, .inl rfl, .inr rfl⟩,
    .inl rfl⟩

end Credential

end Muster
