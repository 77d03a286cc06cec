import Muster.Document.CommonSettings
import Muster.Network.Client
import Muster.Settings.Worker

/-! # Uplinks

A worker's way to its management node: the calls with which it joins and leaves the cluster and asks for what
the cluster knows, and how a failure is told. -/

namespace Muster

open Http

/-- Why a worker has no uplink. -/
inductive UplinkError
  | addressMissing
  | secretMissing
  | client (e : ClientError)
  deriving DecidableEq, Repr

/-- The text of an error. -/
def UplinkError.text : UplinkError → String
  | .addressMissing => "MANAGEMENT_URL is required in cluster mode"
  | .secretMissing => "SECRET is required in cluster mode"
  | .client e => e.text

/-- A worker's uplink: a client of the management node, what the worker registers as, and how long it waits. -/
structure Uplink where
  client : Client
  nodeName : String
  nodeUrl : String
  version : String
  timeout : Duration
  deriving DecidableEq

/-- A question to the management node, and what stands before the text of a refusal. -/
structure Question (α : Type) where
  call : Call α
  context : String

namespace Uplink

/-- Makes the uplink of a worker. A worker without a name goes by its address. -/
def make (w : Settings.Worker) : Except UplinkError Uplink :=
  if w.managementUrl = "" then .error .addressMissing
  else if w.secret = "" then .error .secretMissing
  else
    match Client.make "management" w.managementUrl w.secret with
    | .error e => .error (.client e)
    | .ok client =>
      .ok ⟨client, if w.nodeName = "" then w.nodeUrl else w.nodeName, w.nodeUrl, w.version, w.clusterTimeout⟩

/-! ### Joining and leaving -/

/-- An answer that says it is JSON. -/
def isJsonAnswer (r : Response) : Bool :=
  match r.contentType with
  | some t => isReadable t.toList && jsonText.toList.isPrefixOf t.toList
  | none => false

/-- Reads the settings that are pushed to a worker that joins. -/
def readPushed (r : Response) : Except String CommonSettings :=
  if isJsonAnswer r then
    match readBody CommonSettings.read r with
    | .ok c => .ok c
    | .error e => .error (chainText ["failed to decode response", e])
  else .error "invalid response format"

/-- Registers the worker. -/
def joining (u : Uplink) : Call CommonSettings where
  method := "POST"
  segments := ["node"]
  query := [("name", u.nodeName), ("url", u.nodeUrl), ("version", u.version)]
  body := none
  read := readPushed

/-- The text of a failure to join. What goes wrong before a request is made is told as it is. -/
def joinFailure : CallError → String
  | .noBase url => (CallError.noBase url).text
  | .unusable text => text
  | e => chainText ["failed to register node", e.text]

/-- Unregisters the worker. -/
def leaving (u : Uplink) : Call Unit where
  method := "DELETE"
  segments := ["node"]
  query := [("name", u.nodeName)]
  body := none
  read _ := .ok ()

/-! ### Questions and commands -/

/-- Asks for the cluster's version. -/
def askVersion : Call String where
  method := "GET"
  segments := ["version"]
  query := []
  body := none
  read r := (readBody VersionNotice.read r).map (·.version)

/-- Asks for the member list. -/
def askNodes : Question (List NodeStatus) where
  call :=
    { method := "GET"
      segments := ["node"]
      query := []
      body := none
      read := readBody (Json.readList NodeStatus.read) }
  context := "load nodes"

/-- Asks for the state of a data source on all nodes. -/
def askStatus (name : String) : Question (List SourceReport) where
  call :=
    { method := "GET"
      segments := ["data-source", name, "status"]
      query := []
      body := none
      read := readBody (Json.readList SourceReport.read) }
  context := "retrieve data source status"

/-- Asks for the registered storages. -/
def askStorages : Question (List StorageEntry) where
  call :=
    { method := "GET"
      segments := ["storages"]
      query := []
      body := none
      read := readBody (Json.readList StorageEntry.read) }
  context := "registered storages"

/-- A command to the cluster: any answer of success will do. -/
def command (method : String) (segments : List String) (body : Option Json.Value) (context : String) :
    Question Unit where
  call :=
    { method := method
      segments := segments
      query := []
      body := body
      read := fun _ => .ok () }
  context := context

/-- Loads a data source on all nodes. -/
def load (name : String) : Question Unit :=
  command "POST" ["data-source", name, "load"] none "load data source"

/-- Unloads a data source on all nodes. -/
def unload (name : String) : Question Unit :=
  command "POST" ["data-source", name, "unload"] none "unload data source"

/-- Registers a storage on all nodes. -/
def registerStorage (c : Credential) : Question Unit :=
  command "POST" ["storages"] (some c.encode) "register storage"

/-- Unregisters a storage on all nodes. -/
def unregisterStorage (name : String) : Question Unit :=
  command "DELETE" ["storages", name] none "unregister storage"

end Uplink

/-- The text of a failure: a refusal stands behind what it was that failed. -/
def Question.failure {α : Type} (q : Question α) : CallError → String
  | .refused text => chainText [q.context, text]
  | e => e.text

end Muster
