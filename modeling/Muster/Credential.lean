import Muster.Error
import Muster.Json.Decoder

/-! # Credentials of object storages

An operator submits a `Credential`, a type with a free map of parameters. Checking it (`Credential.register`)
gives the `Registration`, the document with fixed fields that the workers receive. The first rule that a
credential breaks is reported: a name, a known type, the required parameters in order, then the type of each
parameter in order. -/

namespace Muster

open Json

/-- A credential as it is submitted. -/
structure Credential where
  name : String
  kind : String
  scope : List String
  parameters : List (String × Value)

/-- A credential as the workers receive it. -/
structure Registration where
  kind : String
  name : String
  scope : List String
  keyId : String
  secret : String
  region : String
  endpoint : String
  useSsl : Bool
  urlStyle : String
  urlCompatibility : Bool
  kmsKeyId : String
  accountId : String
  deriving DecidableEq, Repr

/-- The parameters that a type of storage requires, in the order in which they are missed; `none` for a type
that is not supported. -/
def requiredParameters (kind : String) : Option (List String) :=
  let s3 := ["KEY_ID", "SECRET", "REGION", "ENDPOINT", "USE_SSL", "URL_STYLE"]
  if kind = "s3" ∨ kind = "gcs" then some s3
  else if kind = "r2" then some (s3 ++ ["ACCOUNT_ID"])
  else none

namespace Credential

/-- What the credential has under a parameter's name. -/
def parameter? (c : Credential) (key : String) : Option Value :=
  Value.lookup key c.parameters

/-- The text of a parameter: empty where it is absent or null. -/
def text (c : Credential) (key : String) : Except ClusterError String :=
  match c.parameter? key with
  | none | some .null => .ok ""
  | some (.string s) => .ok s
  | some _ => .error (.invalidParameter key)

/-- The flag of a parameter: off where it is absent or null. -/
def flag (c : Credential) (key : String) : Except ClusterError Bool :=
  match c.parameter? key with
  | none | some .null => .ok false
  | some (.bool b) => .ok b
  | some _ => .error (.invalidParameter key)

/-- Checks a credential and gives the document for the workers. -/
def register (c : Credential) : Except ClusterError Registration :=
  if c.name = "" then .error (.missingArgument "name")
  else
    match requiredParameters c.kind with
    | none => .error (.unsupportedStorageType c.kind)
    | some required =>
      match required.find? (fun key => (c.parameter? key).isNone) with
      | some key => .error (.missingParameter key)
      | none => do
        let keyId ← c.text "KEY_ID"
        let secret ← c.text "SECRET"
        let region ← c.text "REGION"
        let endpoint ← c.text "ENDPOINT"
        let useSsl ← c.flag "USE_SSL"
        let urlStyle ← c.text "URL_STYLE"
        let urlCompatibility ← c.flag "URL_COMPATIBILITY_MODE"
        let kmsKeyId ← c.text "KMS_KEY_ID"
        let accountId ← c.text "ACCOUNT_ID"
        return ⟨c.kind, c.name, c.scope, keyId, secret, region, endpoint, useSsl, urlStyle, urlCompatibility,
          kmsKeyId, accountId⟩

/-- The document of a credential. -/
def encode (c : Credential) : Value :=
  .object [("name", .string c.name), ("type", .string c.kind), ("scope", .ofStrings c.scope),
    ("parameters", .object c.parameters)]

/-- Reads a credential. Only name and type have to be there. -/
def read : Decoder Credential :=
  Fields.read <| Fields.pure Credential.mk
    |>.required "name" readText
    |>.required "type" readText
    |>.optional "scope" (readList readText) []
    |>.optional "parameters" readObject []

end Credential

namespace Registration

/-- The document of a registration. -/
def encode (r : Registration) : Value :=
  .object [("type", .string r.kind), ("name", .string r.name), ("scope", .ofStrings r.scope),
    ("key_id", .string r.keyId), ("secret", .string r.secret), ("region", .string r.region),
    ("endpoint", .string r.endpoint), ("use_ssl", .bool r.useSsl), ("url_style", .string r.urlStyle),
    ("url_compatibility", .bool r.urlCompatibility), ("kms_key_id", .string r.kmsKeyId),
    ("account_id", .string r.accountId)]

/-- Reads a registration. All fields have to be there. -/
def read : Decoder Registration :=
  Fields.read <| Fields.pure Registration.mk
    |>.required "type" readText
    |>.required "name" readText
    |>.required "scope" (readList readText)
    |>.required "key_id" readText
    |>.required "secret" readText
    |>.required "region" readText
    |>.required "endpoint" readText
    |>.required "use_ssl" readBool
    |>.required "url_style" readText
    |>.required "url_compatibility" readBool
    |>.required "kms_key_id" readText
    |>.required "account_id" readText

end Registration

end Muster
