import Muster.Credential

/-! # What a registration carries

The document for the workers has a value for every parameter. It comes from the credential, or it is blank: a text
that is empty, a flag that is off. A parameter that is required has to be there, but nothing asks that it be more
than null, and what is null is read like what is absent. So a required parameter can be blank in the document although
the credential gives it no text and no flag. -/

namespace Muster

open Json

/-- The parameters that are flags. All others are texts. -/
def isFlag (key : String) : Bool :=
  key == "USE_SSL" || key == "URL_COMPATIBILITY_MODE"

/-- What a document has for a parameter that the credential does not give. -/
def blank (key : String) : Value :=
  if isFlag key then .bool false else .string ""

/-- The value has the type of the parameter. -/
def Json.Value.suits (key : String) : Value → Bool
  | .bool _ => isFlag key
  | .string _ => !isFlag key
  | _ => false

/-- The parameters of a document, under the names that they have in a credential. -/
def Registration.parameters (r : Registration) : List (String × Value) :=
  [("KEY_ID", .string r.keyId), ("SECRET", .string r.secret), ("REGION", .string r.region),
    ("ENDPOINT", .string r.endpoint), ("USE_SSL", .bool r.useSsl), ("URL_STYLE", .string r.urlStyle),
    ("URL_COMPATIBILITY_MODE", .bool r.urlCompatibility), ("KMS_KEY_ID", .string r.kmsKeyId),
    ("ACCOUNT_ID", .string r.accountId)]

/-- What the document has under a parameter's name. -/
def Registration.parameter? (r : Registration) (key : String) : Option Value :=
  Value.lookup key r.parameters

/-- Every parameter that some type requires is one of the document. -/
theorem Registration.parameter?_isSome {kind key : String} {required : List String}
    (h : requiredParameters kind = some required) (hkey : key ∈ required) (r : Registration) :
    ∃ v, (key, v) ∈ r.parameters ∧ r.parameter? key = some v := by
  have hkeys : key ∈ ["KEY_ID", "SECRET", "REGION", "ENDPOINT", "USE_SSL", "URL_STYLE", "ACCOUNT_ID"] := by
    simp only [requiredParameters] at h
    split at h
    · cases h
      exact List.mem_append_left ["ACCOUNT_ID"] hkey
    · split at h
      · cases h
        exact hkey
      · cases h
  simp only [List.mem_cons, List.not_mem_nil, or_false] at hkeys
  rcases hkeys with rfl | rfl | rfl | rfl | rfl | rfl | rfl <;> exact ⟨_, by simp [parameters], rfl⟩

theorem bind_eq_ok_iff {ε α β : Type} {x : Except ε α} {f : α → Except ε β} {b : β} :
    x >>= f = .ok b ↔ ∃ a, x = .ok a ∧ f a = .ok b := by
  cases x <;> simp [bind, Except.bind]

theorem bind_eq_error_iff {ε α β : Type} {x : Except ε α} {f : α → Except ε β} {e : ε} :
    x >>= f = .error e ↔ x = .error e ∨ ∃ a, x = .ok a ∧ f a = .error e := by
  cases x <;> simp [bind, Except.bind]

namespace Credential

variable {c : Credential} {r : Registration} {e : ClusterError}

/-! ### What breaks a rule -/

theorem text_eq_error {key : String} (h : c.text key = .error e) : e = .invalidParameter key := by
  unfold text at h
  split at h <;> cases h
  rfl

theorem flag_eq_error {key : String} (h : c.flag key = .error e) : e = .invalidParameter key := by
  unfold flag at h
  split at h <;> cases h
  rfl

/-- What is wrong with a credential: its name, its type, or one of its parameters. -/
theorem register_eq_error (h : c.register = .error e) : e = .missingArgument "name" ∨
    e = .unsupportedStorageType c.kind ∨ ∃ key, e = .missingParameter key ∨ e = .invalidParameter key := by
  have invalid {key : String} (h : e = .invalidParameter key) : e = .missingArgument "name" ∨
      e = .unsupportedStorageType c.kind ∨ ∃ key, e = .missingParameter key ∨ e = .invalidParameter key :=
    .inr (.inr ⟨key, .inr h⟩)
  unfold register at h
  split at h
  · exact .inl (Except.error.inj h).symm
  split at h
  · exact .inr (.inl (Except.error.inj h).symm)
  split at h
  · exact .inr (.inr ⟨_, .inl (Except.error.inj h).symm⟩)
  simp only [bind_eq_error_iff] at h
  rcases h with h | ⟨_, -, h | ⟨_, -, h | ⟨_, -, h | ⟨_, -, h | ⟨_, -, h | ⟨_, -, h | ⟨_, -, h | ⟨_, -, h | ⟨_, -, h⟩⟩⟩⟩⟩⟩⟩⟩⟩
  · exact invalid (text_eq_error h)
  · exact invalid (text_eq_error h)
  · exact invalid (text_eq_error h)
  · exact invalid (text_eq_error h)
  · exact invalid (flag_eq_error h)
  · exact invalid (text_eq_error h)
  · exact invalid (flag_eq_error h)
  · exact invalid (text_eq_error h)
  · exact invalid (text_eq_error h)
  · cases h

/-! ### What is carried -/

/-- The value that the document gets for a parameter. -/
def carried (c : Credential) (key : String) : Except ClusterError Value :=
  match c.parameter? key with
  | none | some .null => .ok (blank key)
  | some v => if v.suits key then .ok v else .error (.invalidParameter key)

theorem carried_eq_ok {key : String} {v : Value} (h : c.carried key = .ok v) :
    (c.parameter? key = some v ∧ v.suits key = true) ∨
      ((c.parameter? key = none ∨ c.parameter? key = some .null) ∧ v = blank key) := by
  unfold carried at h
  split at h
  · next hnone => exact .inr ⟨.inl hnone, (Except.ok.inj h).symm⟩
  · next hnull => exact .inr ⟨.inr hnull, (Except.ok.inj h).symm⟩
  · next v' hv' =>
    split at h
    · next hsuits =>
      obtain rfl := Except.ok.inj h
      exact .inl ⟨hv', hsuits⟩
    · cases h

theorem text_eq_ok_iff {key s : String} (hkey : isFlag key = false) :
    c.text key = .ok s ↔ c.carried key = .ok (.string s) := by
  unfold text carried blank
  rcases c.parameter? key with _ | v
  · simp [hkey]
  · cases v <;> simp [Value.suits, hkey]

theorem flag_eq_ok_iff {key : String} {b : Bool} (hkey : isFlag key = true) :
    c.flag key = .ok b ↔ c.carried key = .ok (.bool b) := by
  unfold flag carried blank
  rcases c.parameter? key with _ | v
  · simp [hkey]
  · cases v <;> simp [Value.suits, hkey]

/-- The credential breaks no rule, and the document is made of what it has. -/
structure Grants (c : Credential) (r : Registration) : Prop where
  named : c.name ≠ ""
  supported : ∃ required, requiredParameters c.kind = some required ∧
    ∀ key ∈ required, (c.parameter? key).isSome = true
  name : r.name = c.name
  kind : r.kind = c.kind
  scope : r.scope = c.scope
  parameters : ∀ p ∈ r.parameters, c.carried p.1 = .ok p.2

theorem grants_of_register (h : c.register = .ok r) : c.Grants r := by
  unfold register at h
  split at h
  · cases h
  next hname =>
  split at h
  · cases h
  next required hrequired =>
  split at h
  · cases h
  next hfind =>
  have hsupported : ∀ key ∈ required, (c.parameter? key).isSome = true := by
    intro key hkey
    have hpresent := List.find?_eq_none.mp hfind key hkey
    simpa [Option.isNone_iff_eq_none, Option.isSome_iff_ne_none] using hpresent
  simp only [bind_eq_ok_iff] at h
  obtain ⟨keyId, hkeyId, secret, hsecret, region, hregion, endpoint, hendpoint, useSsl, huseSsl, urlStyle, hurlStyle,
    urlCompatibility, hurlCompatibility, kmsKeyId, hkmsKeyId, accountId, haccountId, hr⟩ := h
  obtain rfl := Except.ok.inj hr
  refine ⟨hname, ⟨required, hrequired, hsupported⟩, rfl, rfl, rfl, ?_⟩
  simp only [Registration.parameters, List.forall_mem_cons]
  refine ⟨(text_eq_ok_iff rfl).mp hkeyId, (text_eq_ok_iff rfl).mp hsecret, (text_eq_ok_iff rfl).mp hregion,
    (text_eq_ok_iff rfl).mp hendpoint, (flag_eq_ok_iff rfl).mp huseSsl, (text_eq_ok_iff rfl).mp hurlStyle,
    (flag_eq_ok_iff rfl).mp hurlCompatibility, (text_eq_ok_iff rfl).mp hkmsKeyId, (text_eq_ok_iff rfl).mp haccountId, ?_⟩
  simp

/-- No required parameter is absent from a credential that is registered. The document carries the very value that
the credential gives it, a text or a flag as the parameter asks, and a blank only for a required parameter that is
null. -/
theorem register_carries (h : c.register = .ok r) : ∃ required, requiredParameters c.kind = some required ∧
    ∀ key ∈ required, ∃ v, c.parameter? key = some v ∧
      (v.suits key = true ∧ r.parameter? key = some v ∨ v = .null ∧ r.parameter? key = some (blank key)) := by
  have hgrants := grants_of_register h
  obtain ⟨required, hrequired, hpresent⟩ := hgrants.supported
  refine ⟨required, hrequired, fun key hkey => ?_⟩
  obtain ⟨v, hmem, hv⟩ := Registration.parameter?_isSome hrequired hkey r
  have hcarried : c.carried key = .ok v := hgrants.parameters _ hmem
  rcases carried_eq_ok hcarried with ⟨hgiven, hsuits⟩ | ⟨hnone | hnull, hblank⟩
  · exact ⟨v, hgiven, .inl ⟨hsuits, hv⟩⟩
  · exact absurd (hpresent key hkey) (by simp [hnone])
  · exact ⟨.null, hnull, .inr ⟨rfl, hblank ▸ hv⟩⟩

/-- A credential with all that a type requires, whose flag is as given. -/
def withFlag (kind : String) (flag : Value) : Credential where
  name := "lake"
  kind := kind
  scope := ["s3://lake"]
  parameters := [("KEY_ID", .string "k"), ("SECRET", .string "s"), ("REGION", .string "eu"), ("ENDPOINT", .string "e"),
    ("USE_SSL", flag), ("URL_STYLE", .string "path"), ("ACCOUNT_ID", .string "a")]

/-- What the workers receive of it. -/
def lakeRegistration (kind : String) (useSsl : Bool) : Registration :=
  ⟨kind, "lake", ["s3://lake"], "k", "s", "eu", "e", useSsl, "path", false, "", "a"⟩

theorem register_carries_lake : (withFlag "r2" (.bool true)).register = .ok (lakeRegistration "r2" true) ∧
    ∃ required, requiredParameters "r2" = some required ∧ ∀ key ∈ required, ∃ v,
      (withFlag "r2" (.bool true)).parameter? key = some v ∧
      (v.suits key = true ∧ (lakeRegistration "r2" true).parameter? key = some v ∨
        v = .null ∧ (lakeRegistration "r2" true).parameter? key = some (blank key)) :=
  have hregister : (withFlag "r2" (.bool true)).register = .ok (lakeRegistration "r2" true) := rfl
  ⟨hregister, register_carries hregister⟩

/-- A required flag that is null is made up: the workers are told that it is off. -/
theorem register_null : (withFlag "s3" .null).register = .ok (lakeRegistration "s3" false) ∧
    ¬ ∃ required, requiredParameters "s3" = some required ∧ ∀ key ∈ required, ∃ v,
      (withFlag "s3" .null).parameter? key = some v ∧ v.suits key = true ∧
        (lakeRegistration "s3" false).parameter? key = some v := by
  refine ⟨rfl, ?_⟩
  rintro ⟨required, hrequired, hall⟩
  obtain rfl := Option.some.inj hrequired
  obtain ⟨v, hv, hsuits, -⟩ := hall "USE_SSL" (by simp)
  obtain rfl : .null = v := Option.some.inj hv
  cases hsuits

end Credential

end Muster
