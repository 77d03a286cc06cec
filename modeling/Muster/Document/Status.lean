import Muster.Json.Decoder
import Muster.Time.Timestamp

/-! # Documents of the cluster's state

What the management node and the workers tell each other and their users: rows of the member list, the state
of a data source on one node, registered storages, results of commands and single texts. Each document has an
encoding and a decoder that reads it back. -/

namespace Muster

open Json

/-- A member as the member list shows it. -/
structure NodeStatus where
  name : String
  url : String
  version : String
  error : String
  lastSeen : Timestamp
  ready : Bool
  deriving DecidableEq

/-- The state of a data source on one node. -/
structure SourceReport where
  node : String
  status : String
  error : String
  deriving DecidableEq, Repr

/-- A storage as a worker lists it. -/
structure StorageEntry where
  node : String
  name : String
  kind : String
  scope : List String
  parameters : String
  deriving DecidableEq, Repr

/-- How a command ended. -/
structure CommandResult where
  success : Bool
  message : String
  deriving DecidableEq, Repr

/-- A version by itself: the answer to a ping and to the question for the cluster's version. -/
structure VersionNotice where
  version : String
  deriving DecidableEq, Repr

/-- The state of a data source by itself. -/
structure StatusNotice where
  status : String
  deriving DecidableEq, Repr

/-- Reads a point in time from its text. -/
def readTimestamp : Decoder Timestamp := fun room d =>
  match readText room d with
  | .error f => .error f
  | .ok s =>
    match Timestamp.read? s.toList with
    | some t => .ok t
    | none => .error .mismatch

namespace NodeStatus

/-- The document of a row. -/
def encode (s : NodeStatus) : Value :=
  .object [("name", .string s.name), ("url", .string s.url), ("version", .string s.version),
    ("error", .string s.error), ("last_seen", .string s.lastSeen.text), ("ready", .bool s.ready)]

/-- Reads a row. -/
def read : Decoder NodeStatus :=
  Fields.read <| Fields.pure NodeStatus.mk
    |>.required "name" readText
    |>.required "url" readText
    |>.required "version" readText
    |>.required "error" readText
    |>.required "last_seen" readTimestamp
    |>.required "ready" readBool

end NodeStatus

namespace SourceReport

/-- The document of a report. -/
def encode (r : SourceReport) : Value :=
  .object [("node", .string r.node), ("status", .string r.status), ("error", .string r.error)]

/-- Reads a report; one without an error has the empty error. -/
def read : Decoder SourceReport :=
  Fields.read <| Fields.pure SourceReport.mk
    |>.required "node" readText
    |>.required "status" readText
    |>.optional "error" readText ""

end SourceReport

namespace StorageEntry

/-- The document of an entry. -/
def encode (e : StorageEntry) : Value :=
  .object [("node", .string e.node), ("name", .string e.name), ("type", .string e.kind),
    ("scope", .ofStrings e.scope), ("parameters", .string e.parameters)]

/-- Reads an entry; only name and type have to be there. -/
def read : Decoder StorageEntry :=
  Fields.read <| Fields.pure StorageEntry.mk
    |>.optional "node" readText ""
    |>.required "name" readText
    |>.required "type" readText
    |>.optional "scope" (readList readText) []
    |>.optional "parameters" readText ""

end StorageEntry

namespace CommandResult

/-- The result of a command that was carried out. -/
def ok (message : String) : CommandResult := ⟨true, message⟩

/-- The result of a command that failed. -/
def failed (message : String) : CommandResult := ⟨false, message⟩

/-- The document of a result. -/
def encode (r : CommandResult) : Value :=
  .object [("success", .bool r.success), ("message", .string r.message)]

/-- Reads a result. -/
def read : Decoder CommandResult :=
  Fields.read <| Fields.pure CommandResult.mk
    |>.required "success" readBool
    |>.required "message" readText

end CommandResult

namespace VersionNotice

/-- The document of a version. -/
def encode (n : VersionNotice) : Value :=
  .object [("version", .string n.version)]

/-- Reads a version. -/
def read : Decoder VersionNotice :=
  Fields.read <| Fields.pure VersionNotice.mk |>.required "version" readText

end VersionNotice

namespace StatusNotice

/-- The document of a state. -/
def encode (n : StatusNotice) : Value :=
  .object [("status", .string n.status)]

/-- Reads a state. -/
def read : Decoder StatusNotice :=
  Fields.read <| Fields.pure StatusNotice.mk |>.required "status" readText

end StatusNotice

end Muster
