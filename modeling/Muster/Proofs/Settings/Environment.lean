import Muster.Proofs.Settings.Variables

/-! # Settings of the management node, from variables

Where the names of variables are plain and differ by more than their letter case, each setting is what its variable says
(`said`), or its default. Texts are taken as they are; numbers and flags have to be spelled as such, and a secret has to
be set. Nothing else about the variables counts, so names that are not asked for may also differ by their letter case
alone. -/

namespace Muster.Settings

/-! ### Numbers and flags -/

/-- A text spells a flag, in any letter case. -/
def SpellsFlag (s : String) (b : Bool) : Prop :=
  smallName s ∈ if b then ["1", "true", "on", "yes"] else ["0", "false", "off", "no"]

/-- A text spells a number of 64 bits: by a word for a flag in any letter case, or by digits behind at most one plus. -/
inductive SpellsNat (s : String) : Nat → Prop
  | on (h : smallName s ∈ ["true", "on", "yes"]) : SpellsNat s 1
  | off (h : smallName s ∈ ["false", "off", "no"]) : SpellsNat s 0
  | digits (ds : List Char) (hne : ds ≠ []) (hdigits : ∀ c ∈ ds, c.isDigit = true)
      (htext : s.toList = ds ∨ s.toList = '+' :: ds) (hlt : Json.digitsValue ds < 18446744073709551616) :
      SpellsNat s (Json.digitsValue ds)

/-- A text without the plus before it. -/
def behindPlus : List Char → List Char
  | '+' :: r => r
  | r => r

section
variable {s : String} {b : Bool} {n : Nat} {ds : List Char}

theorem flagOf?_eq (s : String) : Tree.flagOf? s = if smallName s ∈ ["1", "true", "on", "yes"] then some true
    else if smallName s ∈ ["0", "false", "off", "no"] then some false else none := rfl

theorem flagOf?_eq_some_iff : Tree.flagOf? s = some b ↔ SpellsFlag s b := by
  have hdisjoint : ∀ w ∈ ["1", "true", "on", "yes"], w ∉ ["0", "false", "off", "no"] := by decide
  rw [flagOf?_eq]
  by_cases hon : smallName s ∈ ["1", "true", "on", "yes"]
  · rw [if_pos hon]
    cases b with
    | true => exact iff_of_true rfl hon
    | false => exact iff_of_false (by simp) (hdisjoint _ hon)
  · rw [if_neg hon, Option.ite_none_right_eq_some]
    cases b with
    | true => exact iff_of_false (by simp) hon
    | false => exact and_iff_left rfl

/-- The words for flags begin with a small letter, so digits behind at most one plus are none of them. -/
theorem smallName_not_mem_of_digits (hdigits : ∀ c ∈ ds, c.isDigit = true)
    (htext : s.toList = ds ∨ s.toList = '+' :: ds) : smallName s ∉ Tree.onWords ++ Tree.offWords := by
  have hdigit : ∀ c ∈ ds, c.toNat < 65 := by
    intro c hc
    have hrange := hdigits c hc
    simp only [Char.isDigit, Bool.and_eq_true, decide_eq_true_eq, UInt32.le_iff_toNat_le] at hrange
    have hle : c.toNat ≤ 57 := hrange.2
    omega
  have hsigns : ∀ c ∈ s.toList, c.toNat < 65 := by
    rcases htext with htext | htext
    · rw [htext]
      exact hdigit
    · rw [htext]
      exact List.forall_mem_cons.mpr ⟨by decide, hdigit⟩
  have hself : smallName s = s := by rw [smallName, Text.lower_eq_self hsigns, String.ofList_toList]
  have hwords : ∀ w ∈ Tree.onWords ++ Tree.offWords, w.toList.any (65 ≤ ·.toNat) = true := by decide
  intro hmem
  obtain ⟨c, hc, hle⟩ := List.any_eq_true.mp (hwords _ hmem)
  rw [hself] at hc
  have hlt := hsigns c hc
  have hle := of_decide_eq_true hle
  omega

theorem natOf?_eq (s : String) : Tree.natOf? s = if smallName s ∈ Tree.onWords then some 1
    else if smallName s ∈ Tree.offWords then some 0
    else if (behindPlus s.toList).isEmpty || (behindPlus s.toList).any (!·.isDigit) then none
    else if Json.digitsValue (behindPlus s.toList) < 18446744073709551616 then some (Json.digitsValue (behindPlus s.toList))
    else none := rfl

theorem behindPlus_eq_iff {t : List Char} (hdigits : ∀ c ∈ ds, c.isDigit = true) :
    behindPlus t = ds ↔ t = ds ∨ t = '+' :: ds := by
  unfold behindPlus
  split
  · rename_i r
    constructor
    · rintro rfl
      exact .inr rfl
    · rintro (hds | hds)
      · exact absurd (hdigits '+' (hds ▸ List.mem_cons_self)) (by decide)
      · exact (List.cons.inj hds).2
  · rename_i hplus
    exact ⟨.inl, fun h => h.resolve_right fun hds => hplus ds hds⟩

theorem natOf?_eq_some_iff : Tree.natOf? s = some n ↔ SpellsNat s n := by
  have hdisjoint : ∀ w ∈ Tree.onWords, w ∉ Tree.offWords := by decide
  rw [natOf?_eq]
  generalize hbehind : behindPlus s.toList = behind
  by_cases hon : smallName s ∈ Tree.onWords
  · rw [if_pos hon, Option.some_inj]
    constructor
    · rintro rfl
      exact .on hon
    · rintro (_ | hoff | ⟨_, _, hdigits, htext, _⟩)
      · rfl
      · exact absurd hoff (hdisjoint _ hon)
      · exact absurd (List.mem_append_left _ hon) (smallName_not_mem_of_digits hdigits htext)
  rw [if_neg hon]
  by_cases hoff : smallName s ∈ Tree.offWords
  · rw [if_pos hoff, Option.some_inj]
    constructor
    · rintro rfl
      exact .off hoff
    · rintro (hon' | _ | ⟨_, _, hdigits, htext, _⟩)
      · exact absurd hon' hon
      · rfl
      · exact absurd (List.mem_append_right _ hoff) (smallName_not_mem_of_digits hdigits htext)
  rw [if_neg hoff]
  constructor
  · intro h
    simp only [Option.ite_none_left_eq_some, Bool.or_eq_true, List.isEmpty_iff, List.any_eq_true, Bool.not_eq_true',
      not_or, not_exists, not_and, Bool.not_eq_false, Option.ite_none_right_eq_some, Option.some_inj] at h
    obtain ⟨⟨hne, hdigits⟩, hlt, rfl⟩ := h
    exact .digits behind hne hdigits ((behindPlus_eq_iff hdigits).mp hbehind) hlt
  · rintro (hon' | hoff' | ⟨ds, hne, hdigits, htext, hlt⟩)
    · exact absurd hon' hon
    · exact absurd hoff' hoff
    · obtain rfl : behind = ds := hbehind.symm.trans ((behindPlus_eq_iff hdigits).mpr htext)
      have hread : ¬(behind.isEmpty || behind.any (!·.isDigit)) := by simpa [hne] using hdigits
      rw [if_neg hread, if_pos hlt]

/-- A text spells one flag at most. -/
theorem SpellsFlag.unique {b' : Bool} (h : SpellsFlag s b) (h' : SpellsFlag s b') : b = b' :=
  Option.some.inj ((flagOf?_eq_some_iff.mpr h).symm.trans (flagOf?_eq_some_iff.mpr h'))

/-- A text spells one number at most. -/
theorem SpellsNat.unique {n' : Nat} (h : SpellsNat s n) (h' : SpellsNat s n') : n = n' :=
  Option.some.inj ((natOf?_eq_some_iff.mpr h).symm.trans (natOf?_eq_some_iff.mpr h'))

end

/-! ### What variables say -/

/-- What variables say of a setting, in whatever letter case its name is spelled. -/
def said (vars : Variables) (setting : String) : Option String :=
  (vars.map fun v => (smallName v.1, v.2)).lookup setting

/-- The names of variables are plain, and those that are asked for differ by more than their letter case. -/
structure Distinct (vars : Variables) : Prop where
  plain : ∀ v ∈ vars, IsPlain v.1
  once : vars.Pairwise fun v w => smallName v.1 = smallName w.1 → smallName v.1 ∉ Management.settings

theorem said_cons (v : String × String) (vars : Variables) (setting : String) :
    said (v :: vars) setting = if smallName v.1 = setting then some v.2 else said vars setting := by
  rw [said, List.map_cons, List.lookup_cons]
  by_cases hv : setting = smallName v.1
  · simp [hv]
  · rw [beq_false_of_ne hv, if_neg (Ne.symm hv), said]

theorem said_eq_none {vars : Variables} {setting : String} (h : setting ∉ vars.map (smallName ·.1)) :
    said vars setting = none := by
  induction vars with
  | nil => rfl
  | cons v vars ih =>
    obtain ⟨hv, hvars⟩ := List.ne_and_not_mem_of_not_mem_cons h
    rw [said_cons, if_neg (Ne.symm hv), ih hvars]

/-- A setting that is asked for is the text of its variable or its default. -/
theorem Distinct.settingFrom_eq {vars : Variables} (h : Distinct vars) (defaults : List (String × Tree)) :
    ∀ setting ∈ Management.settings,
      Tree.settingFrom defaults vars setting = ((said vars setting).map .text).or (defaults.lookup setting) := by
  intro setting hsetting
  unfold Tree.settingFrom
  generalize defaults.lookup setting = found
  induction vars generalizing found with
  | nil => rfl
  | cons v vars ih =>
    obtain ⟨hplain, hplains⟩ := List.forall_mem_cons.mp h.plain
    obtain ⟨honce, honces⟩ := List.pairwise_cons.mp h.once
    rw [List.foldl_cons, ih ⟨hplains, honces⟩, Tree.under, hplain.settingOf_eq, hplain.stepsWithin_eq, said_cons]
    by_cases hv : smallName v.1 = setting
    · subst hv
      have hnot : smallName v.1 ∉ vars.map (smallName ·.1) := by
        intro hmem
        obtain ⟨w, hw, hname⟩ := List.mem_map.mp hmem
        exact honce w hw hname.symm hsetting
      simp [said_eq_none hnot, Tree.put]
    · rw [if_neg hv, if_neg hv]

/-- What a variable says if it is there, read as such texts are, or the default. -/
def Given {α : Type} (spells : String → α → Prop) (default : α) : Option String → α → Prop
  | some s, a => spells s a
  | none, a => a = default

theorem exists_given {α : Type} {spells : String → α → Prop} {default : α} {word : Option String} :
    (∃ a, Given spells default word a) ↔ ∀ s, word = some s → ∃ a, spells s a := by
  cases word with
  | none => simp [Given]
  | some s => simp [Given]

/-- A time in seconds as a variable gives it, the default standing for none and for zero seconds. -/
inductive Lasts (default : Nat) : Option String → Duration → Prop
  | absent : Lasts default none (.ofSeconds default)
  | zero {s : String} (h : SpellsNat s 0) : Lasts default (some s) (.ofSeconds default)
  | given {s : String} {n : Nat} (h : SpellsNat s n) (hn : n ≠ 0) : Lasts default (some s) (.ofSeconds n)

theorem lasts_of_given {default n : Nat} {word : Option String} (h : Given SpellsNat default word n) :
    Lasts default word (secondsOr default n) := by
  unfold secondsOr
  cases word with
  | none =>
    obtain rfl : n = default := h
    rw [ite_self]
    exact .absent
  | some s =>
    by_cases hn : n = 0
    · subst hn
      exact .zero h
    · rw [if_neg hn]
      exact .given h hn

theorem Lasts.eq_secondsOr {default n : Nat} {s : String} {d : Duration} (h : Lasts default (some s) d)
    (hn : SpellsNat s n) : d = secondsOr default n := by
  cases h with
  | zero hzero =>
    obtain rfl := hzero.unique hn
    rfl
  | given hgiven hne =>
    obtain rfl := hgiven.unique hn
    rw [secondsOr, if_neg hne]

/-! ### Fields -/

namespace Tree

variable {word : Option String}

/-- A value that was there before a variable serves as the default. -/
theorem fieldOr_or_some {α : Type} (found : Option Tree) (t : Tree) (read : Tree → Option α) (default? : Option α) :
    fieldOr (found.or (some t)) read default? = fieldOr found read (read t) := by
  cases found with
  | none => rfl
  | some _ => rfl

theorem fieldOr_text (word : Option String) (default : String) :
    fieldOr (word.map .text) text? (some default) = some (word.getD default) := by
  cases word with
  | none => rfl
  | some _ => rfl

theorem fieldOr_text_some (word : Option String) :
    fieldOr (word.map .text) (fun t => t.text?.map some) (some none) = some word := by
  cases word with
  | none => rfl
  | some _ => rfl

theorem fieldOr_commaList (word : Option String) :
    fieldOr (word.map .text) commaList? (some []) = some ((word.map commaList).getD []) := by
  cases word with
  | none => rfl
  | some _ => rfl

theorem fieldOr_flag {default b : Bool} :
    fieldOr (word.map .text) flag? (some default) = some b ↔ Given SpellsFlag default word b := by
  cases word with
  | none => exact Option.some_inj.trans eq_comm
  | some _ => exact flagOf?_eq_some_iff

theorem fieldOr_nat {default n : Nat} :
    fieldOr (word.map .text) nat? (some default) = some n ↔ Given SpellsNat default word n := by
  cases word with
  | none => exact Option.some_inj.trans eq_comm
  | some _ => exact natOf?_eq_some_iff

theorem text?_text (s : String) : text? (.text s) = some s := rfl

theorem flag?_flag (b : Bool) : flag? (.flag b) = some b := rfl

theorem nat?_nat (n : Nat) : nat? (.nat n) = some n := rfl

end Tree

namespace Management

/-- Settings are what is said of each, or its default. -/
structure Says (said : String → Option String) (m : Management) : Prop where
  bind : m.bind = (said "bind").getD "0.0.0.0:14000"
  secret : m.secret = (said "secret").getD ""
  clusterVersion : m.clusterVersion = (said "cluster_version").getD release
  timeoutSecs : Given SpellsNat 30 (said "timeout_secs") m.timeoutSecs
  checkSecs : Given SpellsNat 60 (said "check_secs") m.checkSecs
  adminUi : Given SpellsFlag true (said "admin_ui") m.adminUi
  adminUiFetchPath : m.adminUiFetchPath = (said "admin_ui_fetch_path").getD ""
  debug : Given SpellsFlag false (said "debug") m.debug
  allowedOrigins : m.cors.allowedOrigins = ((said "cors_allowed_origins").map commaList).getD []
  allowedHeaders : m.cors.allowedHeaders = ((said "cors_allowed_headers").map commaList).getD []
  allowedMethods : m.cors.allowedMethods = ((said "cors_allowed_methods").map commaList).getD []
  path : m.coreDb.path = (said "core_db_path").getD ""
  readOnly : Given SpellsFlag false (said "core_db_readonly") m.coreDb.readOnly
  s3Endpoint : m.coreDb.s3Endpoint = (said "core_db_s3_endpoint").getD ""
  s3Region : m.coreDb.s3Region = (said "core_db_s3_region").getD ""
  s3Key : m.coreDb.s3Key = (said "core_db_s3_key").getD ""
  s3Secret : m.coreDb.s3Secret = (said "core_db_s3_secret").getD ""
  s3UseSsl : Given SpellsFlag false (said "core_db_s3_use_ssl") m.coreDb.s3UseSsl
  authFile : m.authFile = said "auth_config_file"
  allowed : Given SpellsFlag false (said "allowed_anonymous") m.anonymous.allowed
  role : m.anonymous.role = (said "anonymous_role").getD ""
  allowManagedApiKeys : Given SpellsFlag false (said "allow_managed_api_keys") m.allowManagedApiKeys

theorem ofTree?_eq_some_iff {said : String → Option String} {fields : List (String × Tree)} {m : Management}
    (h : ∀ setting ∈ settings,
      fields.lookup setting = ((said setting).map .text).or (defaults.lookup setting)) :
    ofTree? (.table fields) = some m ↔ Says said m := by
  simp only [settings, List.forall_mem_cons] at h
  -- The binds are opened from the outside in, so that each field is looked at once.
  dsimp only [ofTree?, Tree.fields?, Option.bind_eq_bind, Option.bind_some]
  simp only [↓Option.bind_eq_some_iff, h, defaults, List.lookup_cons, List.lookup_nil, String.reduceBEq, Option.or_none,
    Tree.fieldOr_or_some, Tree.text?_text, Tree.flag?_flag, Tree.nat?_nat, Tree.fieldOr_text, Tree.fieldOr_text_some,
    Tree.fieldOr_commaList, Tree.fieldOr_flag, Tree.fieldOr_nat, Option.some.injEq, exists_eq_left']
  constructor
  · rintro ⟨readOnly, hreadOnly, useSsl, huseSsl, allowed, hallowed, timeoutSecs, htimeout, checkSecs, hcheck, adminUi,
      hadminUi, debug, hdebug, managed, hmanaged, ⟨⟩⟩
    exact {
      bind := rfl, secret := rfl, clusterVersion := rfl, timeoutSecs := htimeout, checkSecs := hcheck,
      adminUi := hadminUi, adminUiFetchPath := rfl, debug := hdebug, allowedOrigins := rfl, allowedHeaders := rfl,
      allowedMethods := rfl, path := rfl, readOnly := hreadOnly, s3Endpoint := rfl, s3Region := rfl, s3Key := rfl,
      s3Secret := rfl, s3UseSsl := huseSsl, authFile := rfl, allowed := hallowed, role := rfl,
      allowManagedApiKeys := hmanaged }
  · intro htold
    refine ⟨_, htold.readOnly, _, htold.s3UseSsl, _, htold.allowed, _, htold.timeoutSecs, _, htold.checkSecs, _,
      htold.adminUi, _, htold.debug, _, htold.allowManagedApiKeys, ?_⟩
    rw [← htold.bind, ← htold.secret, ← htold.clusterVersion, ← htold.adminUiFetchPath, ← htold.allowedOrigins,
      ← htold.allowedHeaders, ← htold.allowedMethods, ← htold.path, ← htold.s3Endpoint, ← htold.s3Region,
      ← htold.s3Key, ← htold.s3Secret, ← htold.authFile, ← htold.role]
    rfl

theorem ofVariables_eq_ok_iff {vars : Variables} {m : Management} (h : Distinct vars) :
    ofVariables vars = .ok m ↔ Says (said vars) m ∧ m.secret ≠ "" := by
  obtain ⟨fields, hfields, hlookup⟩ := Tree.ofVariables_eq defaults vars
  have hread (m : Management) : ofTree? (.table fields) = some m ↔ Says (said vars) m :=
    ofTree?_eq_some_iff fun setting hsetting => (hlookup setting).trans (h.settingFrom_eq defaults setting hsetting)
  rw [ofVariables, hfields, ← hread]
  cases ofTree? (.table fields) with
  | none => simp
  | some m' =>
    by_cases hsecret : m'.secret = ""
    · simp only [hsecret, if_pos, reduceCtorEq, Option.some.injEq, false_iff, not_and, not_not]
      rintro rfl
      exact hsecret
    · simp only [hsecret, if_false, Except.ok.injEq, Option.some.injEq, iff_self_and]
      rintro rfl
      exact hsecret

/-- What is said suffices for settings: a secret is set, and whatever is asked for as a number or flag and said at all is
spelled as such. -/
structure Suffices (said : String → Option String) : Prop where
  secret : ∃ s, said "secret" = some s ∧ s ≠ ""
  numbers : ∀ setting ∈ ["timeout_secs", "check_secs"], ∀ s, said setting = some s → ∃ n, SpellsNat s n
  flags : ∀ setting ∈ ["admin_ui", "debug", "core_db_readonly", "core_db_s3_use_ssl", "allowed_anonymous",
    "allow_managed_api_keys"], ∀ s, said setting = some s → ∃ b, SpellsFlag s b

theorem suffices_iff {said : String → Option String} : Suffices said ↔ ∃ m, Says said m ∧ m.secret ≠ "" := by
  constructor
  · rintro ⟨⟨s, hs, hne⟩, hnumbers, hflags⟩
    have number (default : Nat) (setting : String) (hsetting : setting ∈ _) :
        ∃ n, Given SpellsNat default (said setting) n := exists_given.mpr (hnumbers setting hsetting)
    have flag (default : Bool) (setting : String) (hsetting : setting ∈ _) :
        ∃ b, Given SpellsFlag default (said setting) b := exists_given.mpr (hflags setting hsetting)
    obtain ⟨timeoutSecs, htimeout⟩ := number 30 "timeout_secs" (by simp)
    obtain ⟨checkSecs, hcheck⟩ := number 60 "check_secs" (by simp)
    obtain ⟨adminUi, hadminUi⟩ := flag true "admin_ui" (by simp)
    obtain ⟨debug, hdebug⟩ := flag false "debug" (by simp)
    obtain ⟨readOnly, hreadOnly⟩ := flag false "core_db_readonly" (by simp)
    obtain ⟨useSsl, huseSsl⟩ := flag false "core_db_s3_use_ssl" (by simp)
    obtain ⟨allowed, hallowed⟩ := flag false "allowed_anonymous" (by simp)
    obtain ⟨managed, hmanaged⟩ := flag false "allow_managed_api_keys" (by simp)
    refine ⟨⟨_, _, _, timeoutSecs, checkSecs, adminUi, _, debug, ⟨_, _, _⟩, ⟨_, readOnly, _, _, _, _, useSsl⟩, _,
      ⟨allowed, _⟩, managed⟩, ⟨rfl, rfl, rfl, htimeout, hcheck, hadminUi, rfl, hdebug, rfl, rfl, rfl, rfl, hreadOnly,
      rfl, rfl, rfl, rfl, huseSsl, rfl, hallowed, rfl, hmanaged⟩, ?_⟩
    rwa [hs]
  · rintro ⟨m, h, hne⟩
    refine ⟨?_, ?_, ?_⟩
    · rw [h.secret] at hne
      cases hs : said "secret" with
      | none =>
        rw [hs] at hne
        exact absurd rfl hne
      | some s =>
        rw [hs] at hne
        exact ⟨s, rfl, hne⟩
    · simp only [List.forall_mem_cons]
      exact ⟨exists_given.mp ⟨_, h.timeoutSecs⟩, exists_given.mp ⟨_, h.checkSecs⟩, by simp⟩
    · simp only [List.forall_mem_cons]
      exact ⟨exists_given.mp ⟨_, h.adminUi⟩, exists_given.mp ⟨_, h.debug⟩, exists_given.mp ⟨_, h.readOnly⟩,
        exists_given.mp ⟨_, h.s3UseSsl⟩, exists_given.mp ⟨_, h.allowed⟩, exists_given.mp ⟨_, h.allowManagedApiKeys⟩,
        by simp⟩

/-- Settings are made of variables exactly if what is said suffices. They are then what is said of each, texts as they
are, or the defaults; the times are the given seconds or the defaults, and never zero. Nothing else about the variables
counts: not their order, not the letter case of their names, and no variable of another name. -/
theorem ofVariables_reads {vars : Variables} (h : Distinct vars) :
    ((∃ m, ofVariables vars = .ok m) ↔ Suffices (said vars)) ∧
    (∀ m, ofVariables vars = .ok m → Says (said vars) m ∧
      Lasts 30 (said vars "timeout_secs") m.timeout ∧ Lasts 60 (said vars "check_secs") m.checkInterval ∧
      0 < m.timeout.nanos ∧ 0 < m.checkInterval.nanos) ∧
    ∀ vars', Distinct vars' → (∀ setting ∈ settings, said vars setting = said vars' setting) →
      ofVariables vars = ofVariables vars' := by
  refine ⟨?_, fun m hm => ?_, fun vars' h' hsame => ?_⟩
  · rw [suffices_iff]
    exact exists_congr fun m => ofVariables_eq_ok_iff h
  · obtain ⟨htold, -⟩ := (ofVariables_eq_ok_iff h).mp hm
    exact ⟨htold, lasts_of_given htold.timeoutSecs, lasts_of_given htold.checkSecs, nanos_secondsOr (by decide) _,
      nanos_secondsOr (by decide) _⟩
  · refine ofVariables_congr fun setting hsetting => ?_
    rw [h.settingFrom_eq defaults setting hsetting, h'.settingFrom_eq defaults setting hsetting, hsame setting hsetting]

/-- Texts that look like numbers, an empty one, a number behind a plus, a flag in capitals, and names in any case; the
same settings without the variable that is not asked for. -/
theorem ofVariables_reads_cluster :
    let vars : Variables := [("Secret", "00123"), ("CLUSTER_VERSION", "1.0"), ("TIMEOUT_secs", "+12"),
      ("check_secs", "0"), ("ADMIN_UI", "OFF"), ("BIND", ""), ("Path", "/bin")]
    (∃ m, ofVariables vars = .ok m ∧ m.secret = "00123" ∧ m.clusterVersion = "1.0" ∧ m.bind = "" ∧
      m.timeout = .ofSeconds 12 ∧ m.checkInterval = .ofSeconds 60 ∧ m.adminUi = false) ∧
    ofVariables vars = ofVariables [("bind", ""), ("admin_ui", "OFF"), ("CHECK_SECS", "0"), ("timeout_secs", "+12"),
      ("cluster_version", "1.0"), ("SECRET", "00123")] := by
  intro vars
  obtain ⟨hsuffices, hreads, hsame⟩ := @ofVariables_reads vars ⟨by decide, by decide⟩
  have hflag : SpellsFlag "OFF" false := flagOf?_eq_some_iff.mp (by decide)
  have hnumber : SpellsNat "+12" 12 := natOf?_eq_some_iff.mp (by decide)
  have hzero : SpellsNat "0" 0 := natOf?_eq_some_iff.mp (by decide)
  obtain ⟨m, hm⟩ := hsuffices.mpr {
    secret := ⟨"00123", by decide, by decide⟩
    numbers := by
      have hsaid : ["timeout_secs", "check_secs"].map (said vars) = [some "+12", some "0"] := by decide
      simp only [List.map_cons, List.map_nil, List.cons.injEq] at hsaid
      simp only [List.forall_mem_cons, hsaid, Option.some.injEq, forall_eq']
      exact ⟨⟨_, hnumber⟩, ⟨_, hzero⟩, by simp⟩
    flags := by
      have hsaid : ["admin_ui", "debug", "core_db_readonly", "core_db_s3_use_ssl", "allowed_anonymous",
        "allow_managed_api_keys"].map (said vars) = [some "OFF", none, none, none, none, none] := by decide
      simp only [List.map_cons, List.map_nil, List.cons.injEq] at hsaid
      simp only [List.forall_mem_cons, hsaid, Option.some.injEq, forall_eq']
      exact ⟨⟨_, hflag⟩, by simp⟩ }
  obtain ⟨htold, htimeout, hcheck, -, -⟩ := hreads m hm
  refine ⟨⟨m, hm, htold.secret, htold.clusterVersion, htold.bind, ?_, ?_, ?_⟩, hsame _ ⟨by decide, by decide⟩ ?_⟩
  · exact (Lasts.eq_secondsOr htimeout hnumber).trans (by simp [secondsOr])
  · exact (Lasts.eq_secondsOr hcheck hzero).trans (by simp [secondsOr])
  · exact SpellsFlag.unique htold.adminUi hflag
  · intro setting hsetting
    revert setting
    decide

end Management

end Muster.Settings
