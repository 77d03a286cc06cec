import Mathlib.Data.List.TakeWhile
import Muster.Proofs.Text.Case
import Muster.Settings.EnvFile
import Muster.Settings.Management

/-! # Variables by settings

The first name of a variable's path says which setting the variable belongs to. A setting is made of its own variables
alone, in their order; so those of no setting that is asked for have no influence, and what a tree of variables is read
as depends on the variables of each setting by itself. -/

namespace Muster.Settings

/-! ### Paths -/

section
variable {s : List Char} {name : String}

theorem readPath_eq_cons (s : List Char) : ∃ f steps, readPath s = .key f :: steps := by
  unfold readPath
  dsimp only
  split
  · exact ⟨_, _, rfl⟩
  · split
    · exact ⟨_, _, rfl⟩
    · exact ⟨_, _, rfl⟩

/-- A name without points and brackets is a path of one step. -/
theorem readPath_of_plain (hpoint : '.' ∉ s) (hbracket : '[' ∉ s) : readPath s = [.key (String.ofList s)] := by
  unfold readPath
  dsimp only
  split
  · rfl
  · cases hrest : s.dropWhile isNameChar with
    | nil =>
      have hall : s.takeWhile isNameChar = s := by
        have hsplit := List.takeWhile_append_dropWhile (p := isNameChar) (l := s)
        rwa [hrest, List.append_nil] at hsplit
      rw [hall]
      cases s.length <;> rfl
    | cons c r =>
      have hc : c ∈ s := (List.dropWhile_sublist isNameChar).mem (hrest ▸ List.mem_cons_self)
      have hnot : ∀ fuel, readSteps fuel (c :: r) = none := by
        intro fuel
        cases fuel with
        | zero => rfl
        | succ fuel =>
          unfold readSteps
          split
          · rename_i heq
            cases heq
          · rfl
          · rename_i heq
            cases heq
            exact absurd hc hpoint
          · rename_i heq
            cases heq
            exact absurd hc hbracket
          · rfl
      rw [hnot]

end

/-- A name in small letters. -/
def smallName (name : String) : String := String.ofList (Text.lower name.toList)

/-- The setting that a variable belongs to: the first name of its path. -/
def settingOf (name : String) : String :=
  match readPath (Text.lower name.toList) with
  | .key f :: _ => f
  | _ => ""

/-- Where a variable leads to within its setting. -/
def stepsWithin (name : String) : List Step := (readPath (Text.lower name.toList)).tail

theorem readPath_lower (name : String) :
    readPath (Text.lower name.toList) = .key (settingOf name) :: stepsWithin name := by
  obtain ⟨f, steps, hpath⟩ := readPath_eq_cons (Text.lower name.toList)
  rw [settingOf, stepsWithin, hpath]
  rfl

/-- The name of a variable has no points and brackets. -/
def IsPlain (name : String) : Prop := '.' ∉ name.toList ∧ '[' ∉ name.toList

instance (name : String) : Decidable (IsPlain name) := inferInstanceAs (Decidable (_ ∧ _))

theorem IsPlain.readPath_lower {name : String} (h : IsPlain name) :
    readPath (Text.lower name.toList) = [.key (smallName name)] :=
  readPath_of_plain (fun hmem => h.1 (Text.mem_of_mem_lower hmem (by decide) (by decide)))
    fun hmem => h.2 (Text.mem_of_mem_lower hmem (by decide) (by decide))

theorem IsPlain.settingOf_eq {name : String} (h : IsPlain name) : settingOf name = smallName name := by
  rw [settingOf, h.readPath_lower]

theorem IsPlain.stepsWithin_eq {name : String} (h : IsPlain name) : stepsWithin name = [] := by
  rw [stepsWithin, h.readPath_lower]
  rfl

/-! ### Trees -/

theorem lookup_putField (name k : String) (v : Tree) (fields : List (String × Tree)) :
    (putField name v fields).lookup k = if k = name then some v else fields.lookup k := by
  induction fields with
  | nil => by_cases hk : k = name <;> simp [putField, hk]
  | cons field fields ih =>
    obtain ⟨l, w⟩ := field
    rw [putField]
    by_cases hl : l = name
    · subst hl
      rw [if_pos rfl, List.lookup_cons, List.lookup_cons]
      by_cases hk : k = l
      · simp [hk]
      · simp [hk, beq_false_of_ne hk]
    · rw [if_neg hl, List.lookup_cons, List.lookup_cons, ih]
      by_cases hk : k = l
      · subst hk
        simp [hl]
      · rw [beq_false_of_ne hk]

namespace Tree

/-- What is found for a setting after a variable: the variable is put into it if it belongs to it. -/
def under (setting : String) (found : Option Tree) (v : String × String) : Option Tree :=
  if settingOf v.1 = setting then some (put (.text v.2) (stepsWithin v.1) (found.getD .gap)) else found

variable {defaults fields : List (String × Tree)} {vars : List (String × String)} {setting : String}

/-- What variables make of a setting, beginning with its default. -/
def settingFrom (defaults : List (String × Tree)) (vars : List (String × String)) (setting : String) : Option Tree :=
  vars.foldl (under setting) (defaults.lookup setting)

/-- In the tree of variables every setting is what the variables make of it. -/
theorem ofVariables_eq (defaults : List (String × Tree)) (vars : List (String × String)) :
    ∃ fields, ofVariables defaults vars = .table fields ∧
      ∀ setting, fields.lookup setting = settingFrom defaults vars setting := by
  unfold ofVariables settingFrom
  induction vars generalizing defaults with
  | nil => exact ⟨defaults, rfl, fun _ => rfl⟩
  | cons v vars ih =>
    simp only [List.foldl_cons]
    have hput : put (.text v.2) (readPath (Text.lower v.1.toList)) (.table defaults) = .table (putField (settingOf v.1)
        (put (.text v.2) (stepsWithin v.1) ((defaults.lookup (settingOf v.1)).getD .gap)) defaults) := by
      rw [readPath_lower, put]
    rw [hput]
    obtain ⟨fields, hfields, hlookup⟩ := ih (putField (settingOf v.1)
      (put (.text v.2) (stepsWithin v.1) ((defaults.lookup (settingOf v.1)).getD .gap)) defaults)
    refine ⟨fields, hfields, fun setting => ?_⟩
    rw [hlookup, lookup_putField, under]
    by_cases hsetting : settingOf v.1 = setting
    · subst hsetting
      simp
    · rw [if_neg hsetting, if_neg (Ne.symm hsetting)]

/-- A setting is made of its own variables alone. -/
theorem settingFrom_filter (defaults : List (String × Tree)) (vars : List (String × String)) (setting : String) :
    settingFrom defaults (vars.filter (settingOf ·.1 = setting)) setting = settingFrom defaults vars setting := by
  have hskip : (fun found v => if settingOf v.1 = setting then under setting found v else found) = under setting := by
    funext found v
    by_cases hv : settingOf v.1 = setting
    · rw [if_pos hv]
    · rw [if_neg hv, under, if_neg hv]
  unfold settingFrom
  rw [List.foldl_filter]
  simp only [decide_eq_true_eq, hskip]

theorem settingFrom_congr {vars' : List (String × String)}
    (h : vars.filter (settingOf ·.1 = setting) = vars'.filter (settingOf ·.1 = setting)) :
    settingFrom defaults vars setting = settingFrom defaults vars' setting := by
  rw [← settingFrom_filter, h, settingFrom_filter]

/-- Variables that make the same of the settings asked for make trees with the same settings. -/
theorem exists_tables {vars' : List (String × String)} {asked : List String}
    (h : ∀ setting ∈ asked, settingFrom defaults vars setting = settingFrom defaults vars' setting) :
    ∃ fields fields', ofVariables defaults vars = .table fields ∧ ofVariables defaults vars' = .table fields' ∧
      ∀ setting ∈ asked, fields.lookup setting = fields'.lookup setting := by
  obtain ⟨fields, hfields, hlookup⟩ := ofVariables_eq defaults vars
  obtain ⟨fields', hfields', hlookup'⟩ := ofVariables_eq defaults vars'
  refine ⟨fields, fields', hfields, hfields', fun setting hsetting => ?_⟩
  rw [hlookup, hlookup', h setting hsetting]

end Tree

/-! ### Settings -/

namespace Management

/-- The settings that a management node asks for. -/
def settings : List String :=
  ["bind", "secret", "cluster_version", "timeout_secs", "check_secs", "admin_ui", "admin_ui_fetch_path", "debug",
    "cors_allowed_origins", "cors_allowed_headers", "cors_allowed_methods", "core_db_path", "core_db_readonly",
    "core_db_s3_endpoint", "core_db_s3_region", "core_db_s3_key", "core_db_s3_secret", "core_db_s3_use_ssl",
    "auth_config_file", "allowed_anonymous", "anonymous_role", "allow_managed_api_keys"]

theorem ofTree?_congr {fields fields' : List (String × Tree)}
    (h : ∀ setting ∈ settings, fields.lookup setting = fields'.lookup setting) :
    ofTree? (.table fields) = ofTree? (.table fields') := by
  simp only [settings, List.forall_mem_cons] at h
  refine Option.ext fun m => ?_
  -- The binds are opened from the outside in, so that each field is looked at once.
  dsimp only [ofTree?, Tree.fields?, Option.bind_eq_bind, Option.bind_some]
  simp only [↓Option.bind_eq_some_iff, h]

/-- What a management node makes of variables depends on the settings that it asks for. -/
theorem ofVariables_congr {vars vars' : Variables}
    (h : ∀ setting ∈ settings, Tree.settingFrom defaults vars setting = Tree.settingFrom defaults vars' setting) :
    ofVariables vars = ofVariables vars' := by
  obtain ⟨fields, fields', hfields, hfields', hlookup⟩ := Tree.exists_tables h
  rw [ofVariables, ofVariables, hfields, hfields', ofTree?_congr hlookup]

end Management

namespace Worker

/-- The settings that a worker asks for. -/
def settings : List String :=
  ["bind", "node_name", "node_url", "management_url", "secret", "cluster_timeout_secs", "version", "allow_parallel",
    "max_parallel_queries", "enable_admin_ui", "admin_ui_fetch_path", "debug", "cors", "core_db", "auth"]

theorem ofTree?_congr {fields fields' : List (String × Tree)}
    (h : ∀ setting ∈ settings, fields.lookup setting = fields'.lookup setting) :
    ofTree? (.table fields) = ofTree? (.table fields') := by
  simp only [settings, List.forall_mem_cons] at h
  refine Option.ext fun w => ?_
  dsimp only [ofTree?, Tree.fields?, Option.bind_eq_bind, Option.bind_some]
  simp only [↓Option.bind_eq_some_iff, h]

/-- What a worker makes of variables depends on the settings that it asks for. -/
theorem ofVariables?_congr {vars vars' : Variables}
    (h : ∀ setting ∈ settings, Tree.settingFrom [] vars setting = Tree.settingFrom [] vars' setting) :
    ofVariables? vars = ofVariables? vars' := by
  obtain ⟨fields, fields', hfields, hfields', hlookup⟩ := Tree.exists_tables h
  rw [ofVariables?, ofVariables?, hfields, hfields', ofTree?_congr hlookup]

end Worker

end Muster.Settings
