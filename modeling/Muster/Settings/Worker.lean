import Muster.Document.CommonSettings
import Muster.Settings.Tree
import Muster.Time.Duration

/-! # Settings of a worker

What a worker knows of itself, and the part that it shares with the other workers (`common`), which the
management node replaces when the worker joins. -/

namespace Muster.Settings

open Json

/-- The release that a node counts as unless its settings name another version. -/
def release : String := "0.1.0"

/-- The header that carries the cluster's secret. -/
def secretHeader : String := "x-cluster-secret"

/-- The duration of a number of seconds, zero standing for the default. -/
def secondsOr (default n : Nat) : Duration :=
  .ofSeconds (if n = 0 then default else n)

theorem nanos_secondsOr {default : Nat} (h : 0 < default) (n : Nat) : 0 < (secondsOr default n).nanos := by
  unfold secondsOr Duration.ofSeconds
  dsimp only
  split
  · omega
  · omega

/-- The settings of a worker. -/
structure Worker where
  bind : String
  nodeName : String
  nodeUrl : String
  managementUrl : String
  secret : String
  clusterTimeoutSecs : Nat
  version : String
  allowParallel : Bool
  maxParallelQueries : Nat
  common : CommonSettings
  deriving DecidableEq, Repr

/-- The cors lists of a tree. -/
def corsOf? (t : Tree) : Option CorsLists := do
  let find ← t.fields?
  let list := fun (l : Option Tree) => Tree.fieldOr l (Tree.list? Tree.text?) (some [])
  return ⟨← list (find 0 "allowed_origins"), ← list (find 1 "allowed_headers"), ← list (find 2 "allowed_methods")⟩

/-- The metadata store of a tree. -/
def coreDbOf? (t : Tree) : Option CoreDb := do
  let find ← t.fields?
  let text := fun (s : Option Tree) => Tree.fieldOr s Tree.text? (some "")
  let flag := fun (b : Option Tree) => Tree.fieldOr b Tree.flag? (some false)
  return ⟨← text (find 0 "path"), ← flag (find 1 "read_only"), ← text (find 2 "s3_endpoint"),
    ← text (find 3 "s3_region"), ← text (find 4 "s3_key"), ← text (find 5 "s3_secret"), ← flag (find 6 "s3_use_ssl")⟩

/-- The provider of a tree. -/
def providerOf? (t : Tree) : Option AuthProvider := do
  let find ← t.fields?
  return ⟨← Tree.fieldOr (find 0 "type") Tree.text? none, ← Tree.fieldOr (find 1 "name") Tree.text? none⟩

/-- The anonymous access of a tree. -/
def anonymousOf? (t : Tree) : Option AnonymousAccess := do
  let find ← t.fields?
  return ⟨← Tree.fieldOr (find 0 "allowed") Tree.flag? (some false),
    ← Tree.fieldOr (find 1 "role") Tree.text? (some "")⟩

/-- The auth summary of a tree. -/
def authOf? (t : Tree) : Option AuthSummary := do
  let find ← t.fields?
  return ⟨← Tree.fieldOr (find 0 "providers") (Tree.list? providerOf?) (some []),
    ← Tree.fieldOr (find 1 "managed_api_keys") Tree.flag? (some false),
    ← Tree.fieldOr (find 2 "anonymous") anonymousOf? (some .none),
    ← Tree.fieldOr (find 3 "login_url") Tree.text? (some ""),
    ← Tree.fieldOr (find 4 "redirect_url") Tree.text? (some "")⟩

namespace Worker

/-- The settings of a tree. Every field has a default. -/
def ofTree? (t : Tree) : Option Worker := do
  let find ← t.fields?
  let text := fun (name : String) => Tree.fieldOr (find 0 name) Tree.text? (some "")
  let flag := fun (name : String) => Tree.fieldOr (find 0 name) Tree.flag? (some false)
  let nat := fun (name : String) => Tree.fieldOr (find 0 name) Tree.nat? (some 0)
  let common : CommonSettings :=
    ⟨← flag "enable_admin_ui", ← text "admin_ui_fetch_path", ← flag "debug",
      ← Tree.fieldOr (find 0 "cors") corsOf? (some .none), ← Tree.fieldOr (find 0 "core_db") coreDbOf? (some .none),
      ← Tree.fieldOr (find 0 "auth") authOf? (some .none)⟩
  return ⟨← text "bind", ← text "node_name", ← text "node_url", ← text "management_url", ← text "secret",
    ← nat "cluster_timeout_secs", ← Tree.fieldOr (find 0 "version") Tree.text? (some release),
    ← flag "allow_parallel", ← nat "max_parallel_queries", common⟩

/-- The settings that variables make. -/
def ofVariables? (vars : List (String × String)) : Option Worker :=
  ofTree? (Tree.ofVariables [] vars)

/-- Reads settings from a document. Every field has a default. -/
def read : Decoder Worker :=
  Fields.read <| Fields.pure (fun bind nodeName nodeUrl managementUrl secret clusterTimeoutSecs version allowParallel
        maxParallelQueries enableAdminUi adminUiFetchPath debug cors coreDb auth =>
      Worker.mk bind nodeName nodeUrl managementUrl secret clusterTimeoutSecs version allowParallel maxParallelQueries
        ⟨enableAdminUi, adminUiFetchPath, debug, cors, coreDb, auth⟩)
    |>.optional "bind" readText ""
    |>.optional "node_name" readText ""
    |>.optional "node_url" readText ""
    |>.optional "management_url" readText ""
    |>.optional "secret" readText ""
    |>.optional "cluster_timeout_secs" readNat 0
    |>.optional "version" readText release
    |>.optional "allow_parallel" readBool false
    |>.optional "max_parallel_queries" readNat 0
    |>.optional "enable_admin_ui" readBool false
    |>.optional "admin_ui_fetch_path" readText ""
    |>.optional "debug" readBool false
    |>.optional "cors" CorsLists.read .none
    |>.optional "core_db" CoreDb.read .none
    |>.optional "auth" AuthSummary.read .none

/-- The worker belongs to a cluster: it knows where the management node is. -/
def isClusterMode (w : Worker) : Bool :=
  w.managementUrl ≠ ""

/-- How long a worker waits for the management node: five seconds unless its settings say otherwise. -/
def clusterTimeout (w : Worker) : Duration :=
  secondsOr 5 w.clusterTimeoutSecs

/-- The provider that stands for the cluster's secret. -/
def secretProvider : AuthProvider := ⟨"secret", secretHeader⟩

/-- The pushed providers with the secret's one first and no other of its name. -/
def withSecretProvider (providers : List AuthProvider) : List AuthProvider :=
  secretProvider :: providers.filter (·.name ≠ secretHeader)

/-- The settings after a push: the pushed document replaces everything shared. -/
def apply (w : Worker) (pushed : CommonSettings) : Worker :=
  { w with
    common := { pushed with
      auth := { pushed.auth with providers := withSecretProvider pushed.auth.providers } } }

end Worker

end Muster.Settings
