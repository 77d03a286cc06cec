import Mathlib
import Muster.Proofs.Settings.Variables
import Muster.Service

/-! # The process before its env file

Each line of an env file is read with the variables that are there by then, and adds a variable only if none of its name
is there. So the variables of the process stay as they are, and the file puts behind them what it is first to assign, or
ends the process over a value among these that no variable can have. -/

namespace Muster.Settings

/-! ### Lines -/

namespace EnvFile

/-- Adds the variable that a line assigns, unless it is there. -/
def addLine (vars : Variables) : Line → Variables
  | .assignment k v => if (vars.lookup k).isSome then vars else vars ++ [(k, v)]
  | _ => vars

/-- What lines say, each read with the variables that are there by then. -/
def readLines : Variables → List (List Nat) → List Line
  | _, [] => []
  | vars, line :: r => readOctets vars line :: readLines (addLine vars (readOctets vars line)) r

/-- What a line assigns. -/
def Line.assigned? : Line → Option (String × String)
  | .assignment k v => some (k, v)
  | _ => none

/-- The assignments before the first line that cannot be read, in their order. -/
def assignments (vars : Variables) (lines : List (List Nat)) : Variables :=
  ((readLines vars lines).takeWhile (· ≠ .malformed)).filterMap Line.assigned?

/-- What is assigned first of each name that is not there. -/
def additions : Variables → Variables → Variables
  | _, [] => []
  | vars, (k, v) :: r =>
    if (vars.lookup k).isSome then additions vars r else (k, v) :: additions (vars ++ [(k, v)]) r

/-- Added to variables is what is assigned first of each name that is not there. -/
structure Adds (vars assigned added : Variables) : Prop where
  nodup : (added.map (·.1)).Nodup
  mem_iff : ∀ k v, (k, v) ∈ added ↔ vars.lookup k = none ∧ assigned.lookup k = some v

namespace Adds

variable {vars assigned added : Variables} {k v : String}

theorem nothing (vars : Variables) : Adds vars [] [] where
  nodup := List.nodup_nil
  mem_iff := fun k v => by simp

/-- An assignment to a variable that is there adds nothing. -/
theorem kept (h : Adds vars assigned added) (hk : (vars.lookup k).isSome) : Adds vars ((k, v) :: assigned) added where
  nodup := h.nodup
  mem_iff := fun l w => by
    rw [h.mem_iff]
    refine and_congr_right fun hl => ?_
    have hne : l ≠ k := by
      rintro rfl
      simp [hl] at hk
    rw [List.lookup_cons, beq_false_of_ne hne]

/-- An assignment to a variable that is not there adds it, and it is there from then on. -/
theorem put (h : Adds (vars ++ [(k, v)]) assigned added) (hk : vars.lookup k = none) :
    Adds vars ((k, v) :: assigned) ((k, v) :: added) := by
  have hthere (l : String) : (vars ++ [(k, v)]).lookup l = none ↔ vars.lookup l = none ∧ l ≠ k := by
    by_cases hl : l = k
    · simp [List.lookup_append, hl]
    · simp [List.lookup_append, List.lookup_cons, beq_false_of_ne hl, hl]
  have hnot (w : String) : (k, w) ∉ added := fun hmem => ((hthere k).mp ((h.mem_iff k w).mp hmem).1).2 rfl
  refine ⟨List.nodup_cons.mpr ⟨?_, h.nodup⟩, fun l w => ?_⟩
  · rintro hmem
    obtain ⟨⟨l, w⟩, hw, rfl⟩ := List.mem_map.mp hmem
    exact hnot w hw
  · rw [List.mem_cons, h.mem_iff, hthere, List.lookup_cons]
    by_cases hl : l = k
    · subst hl
      simp [hk, eq_comm]
    · simp [hl, beq_false_of_ne hl]

theorem of_additions (vars assigned : Variables) : Adds vars assigned (additions vars assigned) := by
  -- What is added is there for what is assigned behind it, so the variables vary along the assignments.
  induction assigned generalizing vars with
  | nil => exact nothing vars
  | cons a assigned ih =>
    obtain ⟨k, v⟩ := a
    unfold additions
    by_cases hk : (vars.lookup k).isSome
    · rw [if_pos hk]
      exact (ih vars).kept hk
    · rw [if_neg hk]
      exact (ih (vars ++ [(k, v)])).put (Option.not_isSome_iff_eq_none.mp hk)

end Adds

/-- Variables that can all be set. -/
def Settable (vars : Variables) : Prop := ∀ v ∈ vars, isSettable v.2

instance (vars : Variables) : Decidable (Settable vars) := inferInstanceAs (Decidable (∀ v ∈ vars, _))

/-- Sets variables behind those that are there; `none` where one of them cannot be set. -/
def setAll (vars more : Variables) : Option Variables := if Settable more then some (vars ++ more) else none

theorem setAll_nil (vars : Variables) : setAll vars [] = some vars := by
  have hset : Settable [] := List.forall_mem_nil _
  rw [setAll, if_pos hset, List.append_nil]

theorem setAll_cons (vars more : Variables) (k v : String) : setAll vars ((k, v) :: more) =
    if isSettable v then setAll (vars ++ [(k, v)]) more else none := by
  have hset : Settable ((k, v) :: more) ↔ isSettable v ∧ Settable more := List.forall_mem_cons
  by_cases hv : isSettable v
  · simp [setAll, hset, hv]
  · simp [setAll, hset, hv]

/-- Lines put behind the variables what they are first to assign. -/
theorem addLines_eq (vars : Variables) (lines : List (List Nat)) :
    addLines vars lines = setAll vars (additions vars (assignments vars lines)) := by
  induction lines generalizing vars with
  | nil => exact (setAll_nil vars).symm
  | cons line lines ih =>
    unfold addLines assignments readLines
    cases hline : readOctets vars line with
    | blank => exact ih vars
    | malformed => exact (setAll_nil vars).symm
    | assignment k v =>
      dsimp only [addLine]
      show _ = setAll vars (additions vars ((k, v) :: assignments _ lines))
      unfold additions
      by_cases hk : (vars.lookup k).isSome
      · simp only [if_pos hk]
        exact ih vars
      · simp only [if_neg hk]
        rw [setAll_cons, ih]

end EnvFile

/-! ### Env files -/

/-- The lines of the env file; none if there is no such file. -/
def envLines (envFile : Option String) (files : Files) : List (List Nat) :=
  match files.find? (envFile.getD defaultEnvFile) with
  | some content => EnvFile.lines content
  | none => []

/-- What the env file assigns before its first line that cannot be read. -/
def assigned (vars : Variables) (envFile : Option String) (files : Files) : Variables :=
  EnvFile.assignments vars (envLines envFile files)

/-- The variables that the env file has to add to those of the process. -/
def added (vars : Variables) (envFile : Option String) (files : Files) : Variables :=
  EnvFile.additions vars (assigned vars envFile files)

section
variable {vars : Variables} {envFile envFile' : Option String} {files files' : Files}

open EnvFile (Settable)

/-- The variables of the process come first, and behind them what the file is first to assign. -/
theorem withEnvFile_eq : withEnvFile vars envFile files = EnvFile.setAll vars (added vars envFile files) := by
  have hlines : withEnvFile vars envFile files = EnvFile.addLines vars (envLines envFile files) := by
    unfold withEnvFile envLines
    cases files.find? (envFile.getD defaultEnvFile) with
    | none => rfl
    | some content => rfl
  rw [hlines, EnvFile.addLines_eq]
  rfl

theorem loadManagement_eq (h : Settable (added vars envFile files)) : loadManagement vars envFile files =
    some (Management.ofVariables (vars ++ added vars envFile files)) := by
  rw [loadManagement, withEnvFile_eq, EnvFile.setAll, if_pos h, Option.map_some]

theorem loadWorker_eq (h : Settable (added vars envFile files)) : loadWorker vars envFile files =
    some (Worker.ofVariables (vars ++ added vars envFile files)) := by
  rw [loadWorker, withEnvFile_eq, EnvFile.setAll, if_pos h, Option.map_some]

theorem load_eq_none (h : ¬ Settable (added vars envFile files)) :
    loadManagement vars envFile files = none ∧ loadWorker vars envFile files = none := by
  rw [loadManagement, loadWorker, withEnvFile_eq, EnvFile.setAll, if_neg h]
  exact ⟨rfl, rfl⟩

/-! ### What an env file has influence on -/

/-- The variables that belong to a setting, in their order. -/
def ofSetting (setting : String) (vars : Variables) : Variables := vars.filter (settingOf ·.1 = setting)

/-- Two lists of variables have the same variables of each of the settings. -/
def AgreeOn (settings : List String) (vars vars' : Variables) : Prop :=
  ∀ setting ∈ settings, ofSetting setting vars = ofSetting setting vars'

theorem AgreeOn.settingFrom_eq {settings : List String} {more more' : Variables} (h : AgreeOn settings more more')
    (vars : Variables) (defaults : List (String × Tree)) : ∀ setting ∈ settings,
    Tree.settingFrom defaults (vars ++ more) setting = Tree.settingFrom defaults (vars ++ more') setting := by
  intro setting hsetting
  apply Tree.settingFrom_congr
  rw [List.filter_append, List.filter_append]
  exact congrArg (_ ++ ·) (h setting hsetting)

theorem Management.ofVariables_append_congr {more more' : Variables} (h : AgreeOn settings more more') :
    ofVariables (vars ++ more) = ofVariables (vars ++ more') :=
  ofVariables_congr (h.settingFrom_eq vars defaults)

theorem Worker.ofVariables_append_congr {more more' : Variables} (h : AgreeOn settings more more') :
    ofVariables (vars ++ more) = ofVariables (vars ++ more') := by
  rw [ofVariables, ofVariables, ofVariables?_congr (h.settingFrom_eq vars [])]

/-- Names are spelled in the letter case of the variables of the process. -/
def SpelledAs (vars assigned : Variables) : Prop :=
  ∀ v ∈ vars, ∀ a ∈ assigned, smallName v.1 = smallName a.1 → v.1 = a.1

/-- Whatever is assigned and belongs to one of the settings is set in the process, as it is where every variable of these
settings is. -/
def Covers (settings : List String) (vars assigned : Variables) : Prop :=
  ∀ a ∈ assigned, settingOf a.1 ∈ settings → ∃ v ∈ vars, smallName v.1 = smallName a.1

instance (vars assigned : Variables) : Decidable (SpelledAs vars assigned) :=
  inferInstanceAs (Decidable (∀ v ∈ vars, ∀ a ∈ assigned, _))

instance (settings : List String) (vars assigned : Variables) : Decidable (Covers settings vars assigned) :=
  inferInstanceAs (Decidable (∀ a ∈ assigned, _))

/-- Where the process has set what is assigned, nothing is added to the settings. -/
theorem EnvFile.Adds.agreeOn_nil {settings : List String} {assigned added : Variables}
    (h : EnvFile.Adds vars assigned added) (hspelled : SpelledAs vars assigned) (hcovers : Covers settings vars assigned) :
    AgreeOn settings added [] := by
  intro setting hsetting
  rw [ofSetting, ofSetting, List.filter_nil, List.filter_eq_nil_iff]
  rintro ⟨k, w⟩ hmem hk
  obtain ⟨hnone, hassigned⟩ := (h.mem_iff k w).mp hmem
  have ha : (k, w) ∈ assigned := by
    obtain ⟨before, behind, rfl, -⟩ := List.lookup_eq_some_iff.mp hassigned
    simp
  obtain ⟨v, hv, hsmall⟩ := hcovers _ ha (of_decide_eq_true hk ▸ hsetting)
  obtain rfl : v.1 = k := hspelled v hv _ ha hsmall
  simpa using List.lookup_eq_none_iff.mp hnone v hv

end

/-! ### Precedence -/

open EnvFile (Settable) in
/-- Settings are loaded from the variables of the process and, behind them, what the env file is first to assign of other
names before its first line that cannot be read, unless one of these has a value that no variable can have: then the
process ends, and that is the only way in which an env file fails a start by itself. A variable of the process stays what
it is, the empty text included, and a file that is missing or cannot be opened is as good as an empty one. So env files
make a difference by what they add for a setting that is asked for, and none if all that they assign for such settings
is set in the process. -/
theorem load_eq_ofVariables (vars : Variables) (envFile : Option String) (files : Files) :
    let more := added vars envFile files
    (¬ Settable more → loadManagement vars envFile files = none ∧ loadWorker vars envFile files = none) ∧
    (Settable more → loadManagement vars envFile files = some (Management.ofVariables (vars ++ more)) ∧
      loadWorker vars envFile files = some (Worker.ofVariables (vars ++ more))) ∧
    (∀ k v, vars.lookup k = some v → (vars ++ more).lookup k = some v) ∧
    EnvFile.Adds vars (assigned vars envFile files) more ∧
    (∀ envFile' files', Settable more → Settable (added vars envFile' files') →
      (AgreeOn Management.settings more (added vars envFile' files') →
        loadManagement vars envFile files = loadManagement vars envFile' files') ∧
      (AgreeOn Worker.settings more (added vars envFile' files') →
        loadWorker vars envFile files = loadWorker vars envFile' files')) ∧
    (Settable more → SpelledAs vars (assigned vars envFile files) →
      (Covers Management.settings vars (assigned vars envFile files) →
        loadManagement vars envFile files = some (Management.ofVariables vars)) ∧
      (Covers Worker.settings vars (assigned vars envFile files) →
        loadWorker vars envFile files = some (Worker.ofVariables vars))) := by
  intro more
  have hadds : EnvFile.Adds vars (assigned vars envFile files) more := .of_additions vars _
  refine ⟨load_eq_none, fun hset => ⟨loadManagement_eq hset, loadWorker_eq hset⟩, fun k v hk => ?_, hadds,
    fun envFile' files' hset hset' => ⟨fun h => ?_, fun h => ?_⟩, fun hset hspelled => ⟨fun hcovers => ?_, fun hcovers => ?_⟩⟩
  · rw [List.lookup_append, hk, Option.some_or]
  · rw [loadManagement_eq hset, loadManagement_eq hset', Management.ofVariables_append_congr h]
  · rw [loadWorker_eq hset, loadWorker_eq hset', Worker.ofVariables_append_congr h]
  · rw [loadManagement_eq hset, Management.ofVariables_append_congr (hadds.agreeOn_nil hspelled hcovers), List.append_nil]
  · rw [loadWorker_eq hset, Worker.ofVariables_append_congr (hadds.agreeOn_nil hspelled hcovers), List.append_nil]

/-- A file of the directory above that assigns a variable that is set to the empty text, one that a later line refers to
and assigns again, and one behind a line that is no text; and a file that assigns only what is set or not asked for. -/
theorem load_eq_ofVariables_debug :
    let vars : Variables := [("SECRET", "s"), ("BIND", "")]
    let files := Files.ofList ["srv", "node"]
      [("../.env", Text.utf8 "BIND=x\nDEBUG=on\nADMIN_UI=${DEBUG}\nDEBUG=off\n".toList ++ 0xFF ::
          Text.utf8 "\nTIMEOUT_SECS=1".toList),
        ("a/b.env", Text.utf8 "SECRET=t\r\nBIND='x' # y\nTERM=${BIND}".toList)]
    loadManagement vars none files =
      some (Management.ofVariables [("SECRET", "s"), ("BIND", ""), ("DEBUG", "on"), ("ADMIN_UI", "on")]) ∧
    loadManagement vars (some "a/b.env") files = some (Management.ofVariables vars) ∧
    loadWorker vars (some "a/b.env") files = some (Worker.ofVariables vars) := by
  intro vars files
  have hadded : added vars none files = [("DEBUG", "on"), ("ADMIN_UI", "on")] := by decide +kernel
  have hassigned : assigned vars (some "a/b.env") files = [("SECRET", "t"), ("BIND", "x"), ("TERM", "")] := by decide +kernel
  have hnothing : added vars (some "a/b.env") files = [("TERM", "")] := by
    rw [added, hassigned]
    rfl
  obtain ⟨-, hload, -⟩ := load_eq_ofVariables vars none files
  obtain ⟨-, -, -, -, -, hsettled⟩ := load_eq_ofVariables vars (some "a/b.env") files
  rw [hassigned, hnothing] at hsettled
  rw [hadded] at hload
  have hspelled : SpelledAs vars [("SECRET", "t"), ("BIND", "x"), ("TERM", "")] := by decide
  have hkept := hsettled (by decide) hspelled
  exact ⟨(hload (by decide)).1, hkept.1 (by decide), hkept.2 (by decide)⟩

/-- A value with a zero character for a variable that is not set ends the process, where the variables that are set make
a start without the file. -/
theorem load_ended :
    let vars : Variables := [("BIND", "127.0.0.1:0"), ("SECRET", "x")]
    let files := Files.ofList ["srv"] [(".env", Text.utf8 "FOO=a\x00b".toList)]
    loadManagement vars none files = none ∧ loadWorker vars none files = none ∧
    Service.run vars [] files = ⟨101, [Service.startLine], none⟩ ∧
    (Management.ofVariables vars).isOk ∧ (Worker.ofVariables vars).isOk := by
  intro vars files
  have hadded : added vars none files = [("FOO", "a\x00b")] := by decide +kernel
  have hset : ¬ EnvFile.Settable (added vars none files) := by
    rw [hadded]
    decide
  obtain ⟨hmanagement, hworker⟩ := load_eq_none hset
  refine ⟨hmanagement, hworker, ?_, by decide +kernel, by decide +kernel⟩
  have hprepare : Service.prepare vars [] files = none := by
    rw [Service.prepare, show Service.envFileArg [] = none from rfl, hmanagement, Option.map_none]
  rw [Service.run, hprepare]
  rfl

end Muster.Settings
