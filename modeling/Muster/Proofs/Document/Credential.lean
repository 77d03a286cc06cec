import Muster.Credential
import Muster.Proofs.Json.Spelling

/-! # Credentials, read back

A credential that was written is read with its parameters, of which the last counts where a name comes again. So it
breaks the same rules, and the workers receive the same of it. -/

namespace Muster

namespace Json

mutual

/-- What a value is read as: of the fields of an object that have the same name the last is left. -/
def Value.settled : Value → Value
  | .null => .null
  | .bool b => .bool b
  | .number n => .number n
  | .string s => .string s
  | .array items => .array (settledItems items)
  | .object fields => .object (lastFields (settledFields fields))

/-- What the items of an array are read as. -/
def Value.settledItems : List Value → List Value
  | [] => []
  | v :: r => v.settled :: settledItems r

/-- What the fields of an object are read as, before some are left out. -/
def Value.settledFields : List (String × Value) → List (String × Value)
  | [] => []
  | (k, v) :: r => (k, v.settled) :: settledFields r

end

variable {room : Nat} {fields : List (String × Value)}

mutual

/-- Whoever has room for its levels reads any value. -/
theorem readValue_draft : ∀ (v : Value) {room : Nat}, v.depth ≤ room → readValue room v.draft = .ok v.settled
  | .null, _, _ => by rw [Value.draft, readValue, Value.settled]
  | .bool b, _, _ => by rw [Value.draft, readValue, Value.settled]
  | .number n, _, _ => by rw [Value.draft, readValue, Value.settled]
  | .string s, _, _ => by rw [Value.draft, readValue, Value.settled]
  | .array items, 0, h => by cases h
  | .array items, room + 1, h => by
    have hitems := readItems_draft items (Nat.le_of_succ_le_succ h)
    rw [Value.draft, readValue, hitems, Value.settled]
    rfl
  | .object fields, 0, h => by cases h
  | .object fields, room + 1, h => by
    have hfields := readFields_draft fields (Nat.le_of_succ_le_succ h)
    rw [Value.draft, readValue, hfields, Value.settled]
    rfl

theorem readItems_draft : ∀ (items : List Value) {room : Nat}, Value.depthItems items ≤ room →
    readItems room (Value.draftItems items) = .ok (Value.settledItems items)
  | [], _, _ => by rw [Value.draftItems, readItems, Value.settledItems]
  | v :: r, room, h => by
    obtain ⟨hv, hr⟩ := Nat.max_le.mp h
    rw [Value.draftItems, readItems, readValue_draft v hv, readItems_draft r hr, Value.settledItems]
    rfl

theorem readFields_draft : ∀ (fields : List (String × Value)) {room : Nat}, Value.depthFields fields ≤ room →
    readFields room (Value.draftFields fields) = .ok (Value.settledFields fields)
  | [], _, _ => by rw [Value.draftFields, readFields, Value.settledFields]
  | (k, v) :: r, room, h => by
    obtain ⟨hv, hr⟩ := Nat.max_le.mp h
    rw [Value.draftFields, readFields, readValue_draft v hv, readFields_draft r hr, Value.settledFields]
    rfl

end

/-- An object spells out its fields, of which the last ones of their names are left. -/
theorem Spells.object (h : Value.haveWhole fields = true) :
    Spells (.object fields) readObject (Value.depthFields fields + 1) (lastFields (Value.settledFields fields)) where
  whole := h
  draft := fun room => by
    show (readFields (room + Value.depthFields fields) (Value.draftFields fields)).map lastFields = _
    rw [readFields_draft fields (Nat.le_add_left _ room)]
    rfl

/-! ### Names that stand once -/

mutual

/-- No object of a value has a name twice. -/
def Value.isKeyed : Value → Bool
  | .array items => areKeyed items
  | .object fields => haveKeyed fields
  | _ => true

/-- No object of the items has a name twice. -/
def Value.areKeyed : List Value → Bool
  | [] => true
  | v :: r => v.isKeyed && areKeyed r

/-- No name of the fields stands twice, and none does in their values. -/
def Value.haveKeyed : List (String × Value) → Bool
  | [] => true
  | (k, v) :: r => !r.any (·.1 == k) && v.isKeyed && haveKeyed r

end

theorem lastFields_of_haveKeyed (h : Value.haveKeyed fields = true) : lastFields fields = fields := by
  induction fields with
  | nil => rfl
  | cons f fields ih =>
    obtain ⟨hf, hfields⟩ := Bool.and_eq_true_iff.mp h
    obtain ⟨hfresh, -⟩ := Bool.and_eq_true_iff.mp hf
    have hnone : fields.any (·.1 == f.1) = false := (Bool.not_eq_true' _).mp hfresh
    rw [lastFields, if_neg (ne_true_of_eq_false hnone), ih hfields]

mutual

/-- A value whose names stand once is read as it is. -/
theorem settled_of_isKeyed : ∀ {v : Value}, v.isKeyed = true → v.settled = v
  | .null, _ => by rw [Value.settled]
  | .bool b, _ => by rw [Value.settled]
  | .number n, _ => by rw [Value.settled]
  | .string s, _ => by rw [Value.settled]
  | .array items, h => by rw [Value.settled, settledItems_of_areKeyed h]
  | .object fields, h => by rw [Value.settled, settledFields_of_haveKeyed h, lastFields_of_haveKeyed h]

theorem settledItems_of_areKeyed : ∀ {items : List Value}, Value.areKeyed items = true →
    Value.settledItems items = items
  | [], _ => by rw [Value.settledItems]
  | v :: r, h => by
    obtain ⟨hv, hr⟩ := Bool.and_eq_true_iff.mp h
    rw [Value.settledItems, settled_of_isKeyed hv, settledItems_of_areKeyed hr]

theorem settledFields_of_haveKeyed : ∀ {fields : List (String × Value)}, Value.haveKeyed fields = true →
    Value.settledFields fields = fields
  | [], _ => by rw [Value.settledFields]
  | (k, v) :: r, h => by
    obtain ⟨hkv, hr⟩ := Bool.and_eq_true_iff.mp h
    obtain ⟨-, hv⟩ := Bool.and_eq_true_iff.mp hkv
    rw [Value.settledFields, settled_of_isKeyed hv, settledFields_of_haveKeyed hr]

end

/-! ### Fields by name -/

namespace Value

variable {key : String}

theorem lookup_cons (key : String) (f : String × Value) (fields : List (String × Value)) :
    lookup key (f :: fields) = (lookup key fields).or (if f.1 = key then some f.2 else none) := by
  unfold lookup
  rw [List.findRev?]
  cases fields.findRev? (·.1 == key) with
  | some g => rfl
  | none =>
    by_cases hf : f.1 = key
    · simp [hf]
    · simp [hf]

theorem lookup_ne_none (h : key ∈ fields.map (·.1)) : lookup key fields ≠ none := by
  induction fields with
  | nil => cases h
  | cons f fields ih =>
    rw [lookup_cons]
    rcases List.mem_cons.mp h with heq | hmem
    · rw [if_pos heq.symm]
      exact fun hnone => nomatch (Option.or_eq_none_iff.mp hnone).2
    · exact fun hnone => ih hmem (Option.or_eq_none_iff.mp hnone).1

/-- The fields that others replace are not found. -/
theorem lookup_lastFields (key : String) (fields : List (String × Value)) :
    lookup key (lastFields fields) = lookup key fields := by
  induction fields with
  | nil => rfl
  | cons f fields ih =>
    rw [lastFields, lookup_cons]
    by_cases hreplaced : (fields.any (·.1 == f.1)) = true
    · rw [if_pos hreplaced, ih]
      by_cases hf : f.1 = key
      · have hmem : key ∈ fields.map (·.1) := by simpa [← hf] using hreplaced
        obtain ⟨v, hv⟩ := Option.ne_none_iff_exists'.mp (lookup_ne_none hmem)
        rw [hv]
        rfl
      · rw [if_neg hf, Option.or_none]
    · rw [if_neg hreplaced, lookup_cons, ih]

theorem lookup_settledFields (key : String) (fields : List (String × Value)) :
    lookup key (settledFields fields) = (lookup key fields).map settled := by
  induction fields with
  | nil => rfl
  | cons f fields ih =>
    rw [settledFields, lookup_cons, lookup_cons, ih]
    cases lookup key fields with
    | some v => rfl
    | none =>
      by_cases hf : f.1 = key
      · rw [if_pos hf, if_pos hf]
        rfl
      · rw [if_neg hf, if_neg hf]
        rfl

end Value

end Json

open Json

namespace Credential

/-- A credential as it is read. -/
def settled (c : Credential) : Credential := { c with parameters := lastFields (Value.settledFields c.parameters) }

theorem depth_encode (c : Credential) : c.encode.depth = Value.depthFields c.parameters + 2 := by
  have hscope : Value.depthItems (c.scope.map .string) = 0 := by
    induction c.scope with
    | nil => rfl
    | cons s scope ih => exact (Nat.zero_max _).trans ih
  show max 0 (max 0 (max (Value.depthItems (c.scope.map .string) + 1)
    (max (Value.depthFields c.parameters + 1) 0))) + 1 = _
  rw [hscope]
  omega

theorem spelled (c : Credential) (h : Value.haveWhole c.parameters = true) :
    Spells c.encode read c.encode.depth c.settled := by
  rw [depth_encode]
  exact (Fields.Spelled.pure (Value.depthFields c.parameters + 1) Credential.mk
    |>.required "name" (.text c.name) (Nat.zero_le _)
    |>.required "type" (.text c.kind) (Nat.zero_le _)
    |>.optional "scope" (.texts c.scope) (Nat.le_add_left 1 _) []
    |>.optional "parameters" (.object h) (Nat.le_refl _) []).object (by decide)

/-- A credential whose parameters have names that stand once is read as it is. -/
theorem settled_of_haveKeyed {c : Credential} (h : Value.haveKeyed c.parameters = true) : c.settled = c := by
  unfold settled
  rw [settledFields_of_haveKeyed h, lastFields_of_haveKeyed h]

theorem parameter?_settled (c : Credential) (key : String) :
    c.settled.parameter? key = (c.parameter? key).map Value.settled := by
  unfold parameter? settled
  rw [Value.lookup_lastFields, Value.lookup_settledFields]

theorem text_settled (c : Credential) (key : String) : c.settled.text key = c.text key := by
  unfold text
  rw [parameter?_settled]
  cases c.parameter? key with
  | none => rfl
  | some v => cases v <;> rfl

theorem flag_settled (c : Credential) (key : String) : c.settled.flag key = c.flag key := by
  unfold flag
  rw [parameter?_settled]
  cases c.parameter? key with
  | none => rfl
  | some v => cases v <;> rfl

/-- The workers receive the same of a credential that is read as of the one that was written. -/
theorem register_settled (c : Credential) : c.settled.register = c.register := by
  have hfind (required : List String) : required.find? (fun key => (c.settled.parameter? key).isNone) =
      required.find? (fun key => (c.parameter? key).isNone) := by
    congr 1
    funext key
    rw [parameter?_settled, Option.isNone_map]
  have hname : c.settled.name = c.name := rfl
  have hkind : c.settled.kind = c.kind := rfl
  have hscope : c.settled.scope = c.scope := rfl
  unfold register
  simp only [hname, hkind, hscope, hfind, text_settled, flag_settled]

end Credential

theorem Registration.spelled (r : Registration) : Spells r.encode read 2 r :=
  (Fields.Spelled.pure 1 Registration.mk
    |>.required "type" (.text r.kind) (Nat.zero_le 1)
    |>.required "name" (.text r.name) (Nat.zero_le 1)
    |>.required "scope" (.texts r.scope) (Nat.le_refl 1)
    |>.required "key_id" (.text r.keyId) (Nat.zero_le 1)
    |>.required "secret" (.text r.secret) (Nat.zero_le 1)
    |>.required "region" (.text r.region) (Nat.zero_le 1)
    |>.required "endpoint" (.text r.endpoint) (Nat.zero_le 1)
    |>.required "use_ssl" (.bool r.useSsl) (Nat.zero_le 1)
    |>.required "url_style" (.text r.urlStyle) (Nat.zero_le 1)
    |>.required "url_compatibility" (.bool r.urlCompatibility) (Nat.zero_le 1)
    |>.required "kms_key_id" (.text r.kmsKeyId) (Nat.zero_le 1)
    |>.required "account_id" (.text r.accountId) (Nat.zero_le 1)).object (by decide)

end Muster
