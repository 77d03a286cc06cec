import Muster.Json.Decoder

/-! # Common settings

The settings every worker of a cluster shares. The management node pushes them to a worker that joins, and
the worker puts them in the place of its own. -/

namespace Muster

open Json

/-- What other origins may ask for. -/
structure CorsLists where
  allowedOrigins : List String
  allowedHeaders : List String
  allowedMethods : List String
  deriving DecidableEq, Repr

/-- How to reach the shared store of metadata. -/
structure CoreDb where
  path : String
  readOnly : Bool
  s3Endpoint : String
  s3Region : String
  s3Key : String
  s3Secret : String
  s3UseSsl : Bool
  deriving DecidableEq, Repr

/-- A way to prove who one is. -/
structure AuthProvider where
  kind : String
  name : String
  deriving DecidableEq, Repr

/-- What callers without a proof may do. -/
structure AnonymousAccess where
  allowed : Bool
  role : String
  deriving DecidableEq, Repr

/-- What a worker knows of the cluster's providers. -/
structure AuthSummary where
  providers : List AuthProvider
  managedApiKeys : Bool
  anonymous : AnonymousAccess
  loginUrl : String
  redirectUrl : String
  deriving DecidableEq, Repr

/-- The settings that the management node pushes. -/
structure CommonSettings where
  enableAdminUi : Bool
  adminUiFetchPath : String
  debugMode : Bool
  cors : CorsLists
  coreDb : CoreDb
  auth : AuthSummary
  deriving DecidableEq, Repr

namespace CorsLists

/-- Nothing is allowed. -/
def none : CorsLists := ⟨[], [], []⟩

/-- The document of the lists. -/
def encode (c : CorsLists) : Value :=
  .object [("allowed_origins", .ofStrings c.allowedOrigins), ("allowed_headers", .ofStrings c.allowedHeaders),
    ("allowed_methods", .ofStrings c.allowedMethods)]

/-- Reads the lists; a missing one is empty. -/
def read : Decoder CorsLists :=
  Fields.read <| Fields.pure CorsLists.mk
    |>.optional "allowed_origins" (readList readText) []
    |>.optional "allowed_headers" (readList readText) []
    |>.optional "allowed_methods" (readList readText) []

end CorsLists

namespace CoreDb

/-- No store is named. -/
def none : CoreDb := ⟨"", false, "", "", "", "", false⟩

/-- The document of a store. -/
def encode (d : CoreDb) : Value :=
  .object [("path", .string d.path), ("read_only", .bool d.readOnly), ("s3_endpoint", .string d.s3Endpoint),
    ("s3_region", .string d.s3Region), ("s3_key", .string d.s3Key), ("s3_secret", .string d.s3Secret),
    ("s3_use_ssl", .bool d.s3UseSsl)]

/-- Reads a store; missing texts are empty and missing flags off. -/
def read : Decoder CoreDb :=
  Fields.read <| Fields.pure CoreDb.mk
    |>.optional "path" readText ""
    |>.optional "read_only" readBool false
    |>.optional "s3_endpoint" readText ""
    |>.optional "s3_region" readText ""
    |>.optional "s3_key" readText ""
    |>.optional "s3_secret" readText ""
    |>.optional "s3_use_ssl" readBool false

end CoreDb

namespace AuthProvider

/-- The document of a provider. -/
def encode (p : AuthProvider) : Value :=
  .object [("type", .string p.kind), ("name", .string p.name)]

/-- Reads a provider. -/
def read : Decoder AuthProvider :=
  Fields.read <| Fields.pure AuthProvider.mk
    |>.required "type" readText
    |>.required "name" readText

end AuthProvider

namespace AnonymousAccess

/-- No access. -/
def none : AnonymousAccess := ⟨false, ""⟩

/-- The document of the access. -/
def encode (a : AnonymousAccess) : Value :=
  .object [("allowed", .bool a.allowed), ("role", .string a.role)]

/-- Reads the access; none where nothing is said. -/
def read : Decoder AnonymousAccess :=
  Fields.read <| Fields.pure AnonymousAccess.mk
    |>.optional "allowed" readBool false
    |>.optional "role" readText ""

end AnonymousAccess

namespace AuthSummary

/-- No provider and no access. -/
def none : AuthSummary := ⟨[], false, .none, "", ""⟩

/-- The document of a summary. -/
def encode (a : AuthSummary) : Value :=
  .object [("providers", .array (a.providers.map AuthProvider.encode)), ("managed_api_keys", .bool a.managedApiKeys),
    ("anonymous", a.anonymous.encode), ("login_url", .string a.loginUrl), ("redirect_url", .string a.redirectUrl)]

/-- Reads a summary; what is missing is as in `none`. -/
def read : Decoder AuthSummary :=
  Fields.read <| Fields.pure AuthSummary.mk
    |>.optional "providers" (readList AuthProvider.read) []
    |>.optional "managed_api_keys" readBool false
    |>.optional "anonymous" AnonymousAccess.read .none
    |>.optional "login_url" readText ""
    |>.optional "redirect_url" readText ""

end AuthSummary

namespace CommonSettings

/-- Everything off and empty. -/
def none : CommonSettings := ⟨false, "", false, .none, .none, .none⟩

/-- The document of the settings. -/
def encode (c : CommonSettings) : Value :=
  .object [("enable_admin_ui", .bool c.enableAdminUi), ("admin_ui_fetch_path", .string c.adminUiFetchPath),
    ("debug_mode", .bool c.debugMode), ("cors", c.cors.encode), ("core_db", c.coreDb.encode),
    ("auth", c.auth.encode)]

/-- Reads the settings. All six parts have to be there. -/
def read : Decoder CommonSettings :=
  Fields.read <| Fields.pure CommonSettings.mk
    |>.required "enable_admin_ui" readBool
    |>.required "admin_ui_fetch_path" readText
    |>.required "debug_mode" readBool
    |>.required "cors" CorsLists.read
    |>.required "core_db" CoreDb.read
    |>.required "auth" AuthSummary.read

end CommonSettings

end Muster
