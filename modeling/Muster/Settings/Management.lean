import Muster.Settings.Files
import Muster.Settings.Worker

/-! # Settings of the management node

Settings come from variables over defaults; a secret has to be set. With the file of auth providers they make
the common settings that are pushed to workers. -/

namespace Muster.Settings

open Json

/-- The settings of the management node. -/
structure Management where
  bind : String
  secret : String
  clusterVersion : String
  timeoutSecs : Nat
  checkSecs : Nat
  adminUi : Bool
  adminUiFetchPath : String
  debug : Bool
  cors : CorsLists
  coreDb : CoreDb
  authFile : Option String
  anonymous : AnonymousAccess
  allowManagedApiKeys : Bool
  deriving DecidableEq, Repr

/-- Why settings cannot be used. -/
inductive SettingsError
  | invalidManagement
  | invalidWorker
  | secretMissing
  | authFileUnreadable (path : String)
  | authFileInvalid (path : String)
  deriving DecidableEq, Repr

/-- The text of an error. -/
def SettingsError.text : SettingsError → String
  | .invalidManagement => "invalid management configuration"
  | .invalidWorker => "invalid worker configuration"
  | .secretMissing => "SECRET must be set for the management node"
  | .authFileUnreadable path => "failed to open auth config " ++ path
  | .authFileInvalid path => "failed to parse auth config " ++ path

/-- The summary of auth providers that a file holds. A directory is opened but says nothing. -/
def loadAuthSummary (files : Files) (path : String) : Except SettingsError AuthSummary :=
  match files.open_ path with
  | .missing | .barred => .error (.authFileUnreadable path)
  | .directory _ => .error (.authFileInvalid path)
  | .file content =>
    match decodeOctets AuthSummary.read content with
    | .ok a => .ok a
    | .error _ => .error (.authFileInvalid path)

namespace Management

/-- What holds where a variable is not set. -/
def defaults : List (String × Tree) :=
  [("bind", .text "0.0.0.0:14000"), ("cluster_version", .text release), ("timeout_secs", .nat 30),
    ("check_secs", .nat 60), ("admin_ui", .flag true), ("secret", .text "")]

/-- The settings of a tree. -/
def ofTree? (t : Tree) : Option Management := do
  let find ← t.fields?
  let text := fun (name : String) (default? : Option String) => Tree.fieldOr (find 0 name) Tree.text? default?
  let flag := fun (name : String) (default? : Option Bool) => Tree.fieldOr (find 0 name) Tree.flag? default?
  let list := fun (name : String) => Tree.fieldOr (find 0 name) Tree.commaList? (some [])
  let nat := fun (name : String) => Tree.fieldOr (find 0 name) Tree.nat? none
  let cors : CorsLists :=
    ⟨← list "cors_allowed_origins", ← list "cors_allowed_headers", ← list "cors_allowed_methods"⟩
  let coreDb : CoreDb :=
    ⟨← text "core_db_path" (some ""), ← flag "core_db_readonly" (some false), ← text "core_db_s3_endpoint" (some ""),
      ← text "core_db_s3_region" (some ""), ← text "core_db_s3_key" (some ""), ← text "core_db_s3_secret" (some ""),
      ← flag "core_db_s3_use_ssl" (some false)⟩
  let anonymous : AnonymousAccess := ⟨← flag "allowed_anonymous" (some false), ← text "anonymous_role" (some "")⟩
  return ⟨← text "bind" none, ← text "secret" none, ← text "cluster_version" none, ← nat "timeout_secs",
    ← nat "check_secs", ← flag "admin_ui" none, ← text "admin_ui_fetch_path" (some ""), ← flag "debug" (some false),
    cors, coreDb, ← Tree.fieldOr (find 0 "auth_config_file") (fun t => t.text?.map some) (some none), anonymous,
    ← flag "allow_managed_api_keys" (some false)⟩

/-- The settings that variables make. -/
def ofVariables (vars : List (String × String)) : Except SettingsError Management :=
  match ofTree? (Tree.ofVariables defaults vars) with
  | none => .error .invalidManagement
  | some m => if m.secret = "" then .error .secretMissing else .ok m

/-- Reads settings from a document. The first six fields have to be there. -/
def read : Decoder Management :=
  Fields.read <| Fields.pure (fun bind secret clusterVersion timeoutSecs checkSecs adminUi adminUiFetchPath debug
        origins headers methods path readOnly s3Endpoint s3Region s3Key s3Secret s3UseSsl authFile allowed role
        allowManagedApiKeys =>
      Management.mk bind secret clusterVersion timeoutSecs checkSecs adminUi adminUiFetchPath debug
        ⟨origins, headers, methods⟩ ⟨path, readOnly, s3Endpoint, s3Region, s3Key, s3Secret, s3UseSsl⟩ authFile
        ⟨allowed, role⟩ allowManagedApiKeys)
    |>.required "bind" readText
    |>.required "secret" readText
    |>.required "cluster_version" readText
    |>.required "timeout_secs" readNat
    |>.required "check_secs" readNat
    |>.required "admin_ui" readBool
    |>.optional "admin_ui_fetch_path" readText ""
    |>.optional "debug" readBool false
    |>.optional "cors_allowed_origins" readCommaList []
    |>.optional "cors_allowed_headers" readCommaList []
    |>.optional "cors_allowed_methods" readCommaList []
    |>.optional "core_db_path" readText ""
    |>.optional "core_db_readonly" readBool false
    |>.optional "core_db_s3_endpoint" readText ""
    |>.optional "core_db_s3_region" readText ""
    |>.optional "core_db_s3_key" readText ""
    |>.optional "core_db_s3_secret" readText ""
    |>.optional "core_db_s3_use_ssl" readBool false
    |>.optional "auth_config_file" (readOption readText) none
    |>.optional "allowed_anonymous" readBool false
    |>.optional "anonymous_role" readText ""
    |>.optional "allow_managed_api_keys" readBool false

/-- How long a call may take: thirty seconds unless the settings say otherwise. -/
def timeout (m : Management) : Duration :=
  secondsOr 30 m.timeoutSecs

/-- How long after a check the next one is due: a minute unless the settings say otherwise. -/
def checkInterval (m : Management) : Duration :=
  secondsOr 60 m.checkSecs

/-- The document that is pushed to workers. Providers and addresses come from the auth file, anonymous access
from the variables alone, and keys are managed if either says so. -/
def common (m : Management) (files : Files) : Except SettingsError CommonSettings := do
  let auth ←
    match m.authFile with
    | some path => if path = "" then Except.ok AuthSummary.none else loadAuthSummary files path
    | none => Except.ok AuthSummary.none
  return ⟨m.adminUi, m.adminUiFetchPath, m.debug, m.cors, m.coreDb,
    { auth with
      anonymous := m.anonymous
      managedApiKeys := m.allowManagedApiKeys || auth.managedApiKeys }⟩

end Management

end Muster.Settings
