import Muster.Http.Status
import Muster.Text.Form
import Muster.Url.Parser
import Muster.Worker.Router

/-! # The network

Hosts, what they serve, and requests on their way to them. A request arrives at its host (`arrive`) and is
answered there at once, after a delay, or once an engine is done with a command. Times are nanoseconds. -/

namespace Muster

open Http

/-- A request as a client sends it. -/
structure Outgoing where
  method : String
  url : Url
  secret : String
  body : Option Json.Value

/-- The request as its host receives it: headers lose the blanks at their ends. -/
def Outgoing.request (o : Outgoing) : Request where
  method := o.method
  path := o.url.path.print
  query := o.url.query
  headers :=
    (Settings.secretHeader, String.ofList (stripBlanks o.secret.toList)) ::
      (if o.body.isSome then [("content-type", jsonText)] else [])
  body := match o.body with | some v => v.text | none => ""

/-- What a host serves. -/
inductive Service
  /-- The management node, whose interface asks for the given secret. -/
  | management (secret : String)
  /-- The commands of a worker below a path. -/
  | worker (mount secret : String) (engine : Nat)
  /-- One answer to everything, after a delay in nanoseconds. -/
  | stub (answer : Response) (delay : Nat)
  deriving DecidableEq

/-- A request that has reached a host. -/
structure Arrived where
  server : String
  request : Request
  deriving DecidableEq

/-- The network: whether clients have a way to the hosts, what the hosts serve, the engines in the order of their
making, which engine each host had last, and the requests that arrived since they were last asked for. -/
structure Network where
  connected : Bool
  services : List (String × Service)
  engines : List Worker.Engine
  engineOf : List (String × Nat)
  arrived : List Arrived

/-- How a request ended for its sender, and with which answer if there was one in time. -/
inductive Exchange
  | unreachable
  | timedOut
  | answered (r : Response)
  deriving DecidableEq

/-- A request on its way to its end: what it comes to is settled, or an engine has to be done with a command. -/
inductive Flight
  | settled (x : Exchange)
  | command (engine : Nat) (c : Worker.Command) (headOnly : Bool)
  deriving DecidableEq

/-- A request that is answered. -/
def Flight.answered (r : Response) : Flight := .settled (.answered r.onWire)

/-- The path below `mount`, if there is one. -/
def belowMount (mount : String) (path : List Char) : Option (List Char) :=
  if mount = "" then some path
  else
    let m := mount.toList
    if m.isPrefixOf path then
      match path.drop m.length with
      | [] => some ['/']
      | '/' :: r => some ('/' :: r)
      | _ => none
    else none

namespace Network

/-- Replaces what a table has under a key, or adds it. -/
def assign {α : Type} (key : String) (value : α) : List (String × α) → List (String × α)
  | [] => [(key, value)]
  | (k, v) :: r => if k = key then (k, value) :: r else (k, v) :: assign key value r

/-- Begins a command at an engine. -/
def begin (net : Network) (engine : Nat) (c : Worker.Command) : Network :=
  { net with engines := net.engines.modify engine (·.begin c) }

/-- An engine is done with a command. -/
def finish (net : Network) (engine : Nat) (c : Worker.Command) : Network × Worker.Answer :=
  match net.engines[engine]? with
  | some e => ({ net with engines := net.engines.set engine (e.finish c).1 }, (e.finish c).2)
  | none => (net, .done)

/-- How long an engine takes for a command. -/
def delayOf (net : Network) (engine : Nat) (c : Worker.Command) : Nat :=
  match net.engines[engine]? with
  | some e => e.delayOf c
  | none => 0

/-- A worker takes a request: gives how long the answer takes. -/
def atWorker (net : Network) (secret : String) (engine : Nat) (r : Request) : Network × Nat × Flight :=
  match Worker.handle secret r with
  | .answered response => (net, 0, .answered response)
  | .command c headOnly => (net.begin engine c, net.delayOf engine c, .command engine c headOnly)

/-- A worker answers a request of somebody who waits as long as it takes; the time is the one waited. -/
def serveWorker (net : Network) (secret : String) (engine : Nat) (r : Request) : Network × Nat × Response :=
  match Worker.handle secret r with
  | .answered response => (net, 0, response)
  | .command c headOnly =>
    let delay := net.delayOf engine c
    let (net, a) := (net.begin engine c).finish engine c
    (net, delay, Worker.delivered c headOnly a)

/-- A request without a route is refused: by the guard, or because there is none. No command to workers names a
route of the management node. -/
def refusal (secret : String) (r : Request) : Response :=
  if carries secret r then .empty 404 else unauthorized

/-- A command to a worker, or anything else that is not meant for the management node, arrives at its host: gives
how long the answer takes. -/
def arrive (net : Network) (o : Outgoing) : Network × Nat × Flight :=
  match if net.connected then net.services.lookup o.url.server else none with
  | none => (net, 0, .settled .unreachable)
  | some service =>
    let r := o.request
    let net := { net with arrived := net.arrived ++ [⟨o.url.server, r⟩] }
    match service with
    | .management secret => (net, 0, .answered (refusal secret r))
    | .stub response delay => (net, delay, .answered response)
    | .worker mount secret engine =>
      match belowMount mount r.path with
      | none => (net, 0, .answered (.empty 404))
      | some path => net.atWorker secret engine { r with path := path }

/-- Sends a request whose sender waits for less than the time `within`: gives how long the sender waits. A command
that takes longer is given up: it never acts. -/
def launch (net : Network) (within : Nat) (o : Outgoing) : Network × Nat × Flight :=
  let (net, delay, flight) := net.arrive o
  if delay < within then (net, delay, flight) else (net, within, .settled .timedOut)

/-- The sender has waited: the engine that the request waits for, if it waits for one, acts. -/
def land (net : Network) : Flight → Network × Exchange
  | .settled x => (net, x)
  | .command engine c headOnly =>
    let (net, a) := net.finish engine c
    (net, .answered (Worker.delivered c headOnly a).onWire)

/-- Sends a request and waits for its end, at most for the time `within`; the time is the one waited. -/
def send (net : Network) (within : Nat) (o : Outgoing) : Network × Nat × Exchange :=
  let (net, after, flight) := net.launch within o
  let (net, x) := net.land flight
  (net, after, x)

end Network

end Muster
