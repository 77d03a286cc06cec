import Muster.Network.Basic

/-! # Clients

A client sends requests below one address, each with the secret. What a request asks for and how its answer is
read is a `Call`; what can go wrong on the way is a `CallError`. Requests and answers are assumed to keep within the sizes
that the transport takes: an address longer than 65534 octets, say, is none that it would send. -/

namespace Muster

open Http

/-- Why a client cannot be made. -/
inductive ClientError
  /-- The address, called `what`, is no URL. -/
  | invalidUrl (what url : String) (e : Url.UrlError)
  | invalidSecret
  deriving DecidableEq, Repr

/-- The text of an error with its cause. -/
def ClientError.text : ClientError → String
  | .invalidUrl what url e => chainText ["invalid " ++ what ++ " url " ++ url, e.text]
  | .invalidSecret => chainText ["secret is not a valid header value", "failed to parse header value"]

/-- A client. -/
structure Client where
  base : Url
  secret : String
  deriving DecidableEq

/-- Makes a client; `what` is what its address is called. The address is looked at before the secret. -/
def Client.make (what url secret : String) : Except ClientError Client :=
  match Url.parse url with
  | .error e => .error (.invalidUrl what url e)
  | .ok base => if isHeaderValue secret.toList then .ok ⟨base, secret⟩ else .error .invalidSecret

/-- A request below an address: its method, the segments behind the address, the fields added to the query, the
document it carries, and how a successful answer is read. -/
structure Call (α : Type) where
  method : String
  segments : List String
  query : List (String × String)
  body : Option Json.Value
  read : Response → Except String α

/-- What goes wrong with a call. -/
inductive CallError
  /-- The address is no base for others. -/
  | noBase (url : Url)
  /-- The address is none of HTTP. -/
  | badScheme (url : Url)
  /-- The address names a host that no request can go to. -/
  | badServer (url : Url)
  | unreachable (url : Url)
  | timedOut (url : Url)
  /-- The answer is none of success. -/
  | refused (text : String)
  /-- The answer is one of success, but cannot be read or reports a failure. -/
  | unusable (text : String)
  deriving DecidableEq

/-- The text of an error. -/
def CallError.text : CallError → String
  | .noBase url => "url " ++ url.text ++ " cannot be a base"
  | .badScheme url => "builder error for url (" ++ url.text ++ "): URL scheme is not allowed"
  | .badServer url => "builder error for url (" ++ url.text ++ "): Parsed Url is not a valid Uri"
  | .unreachable url => "error sending request for url (" ++ url.text ++ ")"
  | .timedOut url => "error sending request for url (" ++ url.text ++ "): operation timed out"
  | .refused text | .unusable text => text

/-- The text of an answer that is none of success: its body, or its status if that is blank. -/
def refusalText (r : Response) : String :=
  let body := Text.trimmed r.body
  if body = "" then statusText r.status else body

/-- The text of an answer that is not the document asked for. -/
def undecodable : String := "error decoding response body"

/-- Reads the document of an answer. -/
def readBody {α : Type} (read : Json.Decoder α) (r : Response) : Except String α :=
  match Json.decode read r.body with
  | .ok a => .ok a
  | .error _ => .error undecodable

/-- Reads the result of a command: an answer that reports a failure fails with its message. -/
def readResult (r : Response) : Except String Unit :=
  match readBody CommandResult.read r with
  | .error e => .error e
  | .ok result => if result.success then .ok () else .error result.message

/-- Puts fields behind a query. -/
def addQuery (fields : List (String × String)) (query : Option (List Char)) : Option (List Char) :=
  if fields.isEmpty then query
  else
    let form := Text.formText fields
    match query with
    | none => some form
    | some q => some (if q.isEmpty then form else q ++ '&' :: form)

/-- The request of a call, or why none can be sent. The user that an address names is not part of it, and an
address without a host is refused before anything is added to it. An address is assumed not to be too long to be sent. -/
def Client.request {α : Type} (c : Client) (call : Call α) : Except CallError Outgoing :=
  match c.base.join? (call.segments.map String.toList) with
  | none => .error (.noBase c.base)
  | some u =>
    if u.hasHost then
      let u := { u.withoutUser with query := addQuery call.query u.query }
      if u.scheme ≠ "http".toList ∧ u.scheme ≠ "https".toList then .error (.badScheme u)
      else if isServer u.server.toList then .ok ⟨call.method, u, c.secret, call.body⟩
      else .error (.badServer u)
    else .error (.badScheme u)

/-- The outcome of a call whose request went out to `url`. -/
def Call.outcome {α : Type} (call : Call α) (url : Url) : Exchange → Except CallError α
  | .unreachable => .error (.unreachable url)
  | .timedOut => .error (.timedOut url)
  | .answered r =>
    if r.isSuccess then
      match call.read r with
      | .ok a => .ok a
      | .error e => .error (.unusable e)
    else .error (.refused (refusalText r))

/-- A call under way: why no request could be sent, or the address asked and where the request stands. -/
inductive Pending
  | unsent (e : CallError)
  | sent (url : Url) (flight : Flight)
  deriving DecidableEq

/-- Begins a call whose sender waits for the time `within`: gives how long the sender waits. -/
def Client.launch {α : Type} (c : Client) (net : Network) (within : Nat) (call : Call α) : Network × Nat × Pending :=
  match c.request call with
  | .error e => (net, 0, .unsent e)
  | .ok o =>
    let (net, after, flight) := net.launch within o
    (net, after, .sent o.url flight)

/-- Ends a call. -/
def Pending.land {α : Type} (net : Network) (call : Call α) : Pending → Network × Except CallError α
  | .unsent e => (net, .error e)
  | .sent url flight =>
    let (net, x) := net.land flight
    (net, call.outcome url x)

/-- Makes a call and waits for its end, at most for the time `within`; the time is the one waited. -/
def Client.send {α : Type} (c : Client) (net : Network) (within : Nat) (call : Call α) :
    Network × Nat × Except CallError α :=
  let (net, after, pending) := c.launch net within call
  let (net, outcome) := pending.land net call
  (net, after, outcome)

/-! ### The commands of a worker -/

namespace WorkerCall

/-- Asks for the version. -/
def ping : Call String where
  method := "GET"
  segments := ["cluster", "ping"]
  query := []
  body := none
  read r := (readBody VersionNotice.read r).map (·.version)

/-- Loads a data source. -/
def load (name : String) : Call Unit where
  method := "POST"
  segments := ["cluster", "data-sources", name, "load"]
  query := []
  body := none
  read := readResult

/-- Unloads a data source. -/
def unload (name : String) : Call Unit where
  method := "POST"
  segments := ["cluster", "data-sources", name, "unload"]
  query := []
  body := none
  read := readResult

/-- Asks for the state of a data source. -/
def status (name : String) : Call String where
  method := "GET"
  segments := ["cluster", "data-sources", name, "status"]
  query := []
  body := none
  read r := (readBody StatusNotice.read r).map (·.status)

/-- Registers a storage. -/
def registerStorage (r : Registration) : Call Unit where
  method := "POST"
  segments := ["cluster", "storages"]
  query := []
  body := some r.encode
  read := readResult

/-- Unregisters a storage. -/
def unregisterStorage (name : String) : Call Unit where
  method := "DELETE"
  segments := ["cluster", "storages", name]
  query := []
  body := none
  read := readResult

/-- Asks for the registered storages. -/
def storages : Call (List StorageEntry) where
  method := "GET"
  segments := ["cluster", "storages"]
  query := []
  body := none
  read := readBody (Json.readList StorageEntry.read)

end WorkerCall

end Muster
