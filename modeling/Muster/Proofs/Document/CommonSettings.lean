import Muster.Document.CommonSettings
import Muster.Proofs.Json.Spelling

/-! # Common settings, read back

The settings that the management node pushes are the settings that a worker reads, in every part. -/

namespace Muster

open Json

theorem CorsLists.spelled (c : CorsLists) : Spells c.encode read 2 c :=
  (Fields.Spelled.pure 1 CorsLists.mk
    |>.optional "allowed_origins" (.texts c.allowedOrigins) (Nat.le_refl 1) []
    |>.optional "allowed_headers" (.texts c.allowedHeaders) (Nat.le_refl 1) []
    |>.optional "allowed_methods" (.texts c.allowedMethods) (Nat.le_refl 1) []).object (by decide)

theorem CoreDb.spelled (d : CoreDb) : Spells d.encode read 1 d :=
  (Fields.Spelled.pure 0 CoreDb.mk
    |>.optional "path" (.text d.path) (Nat.le_refl 0) ""
    |>.optional "read_only" (.bool d.readOnly) (Nat.le_refl 0) false
    |>.optional "s3_endpoint" (.text d.s3Endpoint) (Nat.le_refl 0) ""
    |>.optional "s3_region" (.text d.s3Region) (Nat.le_refl 0) ""
    |>.optional "s3_key" (.text d.s3Key) (Nat.le_refl 0) ""
    |>.optional "s3_secret" (.text d.s3Secret) (Nat.le_refl 0) ""
    |>.optional "s3_use_ssl" (.bool d.s3UseSsl) (Nat.le_refl 0) false).object (by decide)

theorem AuthProvider.spelled (p : AuthProvider) : Spells p.encode read 1 p :=
  (Fields.Spelled.pure 0 AuthProvider.mk
    |>.required "type" (.text p.kind) (Nat.le_refl 0)
    |>.required "name" (.text p.name) (Nat.le_refl 0)).object (by decide)

theorem AnonymousAccess.spelled (a : AnonymousAccess) : Spells a.encode read 1 a :=
  (Fields.Spelled.pure 0 AnonymousAccess.mk
    |>.optional "allowed" (.bool a.allowed) (Nat.le_refl 0) false
    |>.optional "role" (.text a.role) (Nat.le_refl 0) "").object (by decide)

theorem AuthSummary.spelled (a : AuthSummary) : Spells a.encode read 3 a :=
  (Fields.Spelled.pure 2 AuthSummary.mk
    |>.optional "providers" (.list fun p _ => AuthProvider.spelled p) (Nat.le_refl 2) []
    |>.optional "managed_api_keys" (.bool a.managedApiKeys) (Nat.zero_le 2) false
    |>.optional "anonymous" a.anonymous.spelled (Nat.le_succ 1) .none
    |>.optional "login_url" (.text a.loginUrl) (Nat.zero_le 2) ""
    |>.optional "redirect_url" (.text a.redirectUrl) (Nat.zero_le 2) "").object (by decide)

theorem CommonSettings.spelled (c : CommonSettings) : Spells c.encode read 4 c :=
  (Fields.Spelled.pure 3 CommonSettings.mk
    |>.required "enable_admin_ui" (.bool c.enableAdminUi) (Nat.zero_le 3)
    |>.required "admin_ui_fetch_path" (.text c.adminUiFetchPath) (Nat.zero_le 3)
    |>.required "debug_mode" (.bool c.debugMode) (Nat.zero_le 3)
    |>.required "cors" c.cors.spelled (Nat.le_succ 2)
    |>.required "core_db" c.coreDb.spelled (Nat.le_of_ble_eq_true rfl)
    |>.required "auth" c.auth.spelled (Nat.le_refl 3)).object (by decide)

end Muster
