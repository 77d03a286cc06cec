import Muster.Http.MediaType
import Muster.Settings.Worker
import Muster.Text.Percent

/-! # Routing

An interface is a table of routes behind one guard. A request is admitted (`dispatch`) if it carries the secret and
names a route with a method that the route has; every other request is answered at once, and one without the
secret always in the same way. -/

namespace Muster.Http

/-- A piece of a route's path: a fixed segment, or the place of a name. -/
inductive Piece
  | fixed (s : String)
  | name
  deriving DecidableEq, Repr

/-- A route: its path and what each of its methods does. -/
structure Route (α : Type) where
  path : List Piece
  methods : List (String × α)

/-- Matches the segments of a path: gives what stands in the place of the name, empty if there is none. A name at
the end of a path is not empty. -/
def matchPieces : List Piece → List (List Char) → Option (List Char)
  | [], [] => some []
  | .fixed s :: ps, t :: ts => if s.toList = t then matchPieces ps ts else none
  | [.name], [t] => if t.isEmpty then none else some t
  | .name :: ps, t :: ts => (matchPieces ps ts).map fun _ => t
  | _, _ => none

/-- Matches a path against a route. -/
def Route.match? {α : Type} (r : Route α) (path : List Char) : Option (List Char) :=
  match path with
  | '/' :: p => matchPieces r.path (Text.split '/' p)
  | _ => none

/-- The methods that a route answers to, sorted. A route for `GET` answers to `HEAD`. -/
def Route.allow {α : Type} (r : Route α) : List String :=
  ["DELETE", "GET", "HEAD", "POST"].filter fun m =>
    (r.methods.lookup m).isSome || (m = "HEAD" && (r.methods.lookup "GET").isSome)

/-- The request carries the secret: its first header for it reads as a text and is the secret. -/
def carries (secret : String) (r : Request) : Bool :=
  match r.header? Settings.secretHeader with
  | some value => isReadable value.toList && value = secret
  | none => false

/-- What an admitted request asks for: the action of its method, what stands in the place of the name, and
whether the answer is wanted without its body. -/
structure Admitted (α : Type) where
  action : α
  name : List Char
  headOnly : Bool

/-- The answer to a request without the secret. -/
def unauthorized : Response := .ofError .unauthorized

/-- Admits a request, or answers it at once. -/
def dispatch {α : Type} (secret : String) (routes : List (Route α)) (r : Request) : Except Response (Admitted α) :=
  match routes.findSome? (fun route => (route.match? r.path).map (route, ·)) with
  | none => .error (if carries secret r then .empty 404 else unauthorized)
  | some (route, name) =>
    let found :=
      match route.methods.lookup r.method with
      | some a => some (a, false)
      | none => if r.method = "HEAD" then (route.methods.lookup "GET").map (·, true) else none
    match found with
    | none => .error { (if carries secret r then Response.empty 405 else unauthorized) with allow := route.allow }
    | some (a, headOnly) =>
      if carries secret r then .ok ⟨a, name, headOnly⟩
      else .error (if headOnly then unauthorized.headOnly else unauthorized)

/-- The answer to an admitted request, in the form that it was asked for. -/
def Admitted.deliver {α : Type} (a : Admitted α) (r : Response) : Response :=
  if a.headOnly then r.headOnly else r

/-- The text that stands in the place of a name. -/
def nameOf (s : List Char) : Except Response String :=
  match Text.fromUtf8? (Text.percentDecode s) with
  | some t => .ok (String.ofList t)
  | none => .error (.text 400 "Invalid URL: Invalid UTF-8 in `name`")

/-- A content type that stands for a JSON text. -/
def isJsonType (s : List Char) : Bool :=
  isReadable s && (MediaType.read? s).any (·.isJson)

/-- The document at the beginning of a request's body; what is behind it does not count. -/
def bodyOf {α : Type} (read : Json.Decoder α) (r : Request) : Except Response α :=
  match r.header? "content-type" with
  | none => .error (.text 415 "Expected request with `Content-Type: application/json`")
  | some t =>
    if isJsonType t.toList then
      match Json.decodeFront read r.body with
      | .ok a => .ok a
      | .error .malformed => .error (.text 400 "Failed to parse the request body as JSON")
      | .error .mismatch => .error (.text 422 "Failed to deserialize the JSON body into the target type")
    else .error (.text 415 "Expected request with `Content-Type: application/json`")

end Muster.Http
