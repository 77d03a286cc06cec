import Muster.Proofs.Http.Dispatch

/-! # The guard

Behind the guard of an interface come only requests that present its secret. What others are answered does not depend
on what they ask: it is told by the route that the path has, and by the method. -/

namespace Muster.Http

/-- A character that may stand in a secret: visible ASCII, a blank or a tab. -/
def IsSecretChar (c : Char) : Prop := c = '\t' ∨ 0x20 ≤ c.toNat ∧ c.toNat < 0x7F

/-- The request presents a secret: its first header for one can be read, and is the secret. -/
def Request.Presents (r : Request) (secret : String) : Prop :=
  r.headers.lookup Settings.secretHeader = some secret ∧ ∀ c ∈ secret.toList, IsSecretChar c

theorem isReadable_iff {s : List Char} : isReadable s = true ↔ ∀ c ∈ s, IsSecretChar c := by
  unfold isReadable
  rw [List.all_eq_true]
  exact forall₂_congr fun c _ => by simp [IsSecretChar]

/-- The guard lets a request pass if and only if it presents the secret. -/
theorem carries_iff {secret : String} {r : Request} : carries secret r = true ↔ r.Presents secret := by
  unfold carries Request.header? Request.Presents
  cases r.headers.lookup Settings.secretHeader with
  | none => simp
  | some value =>
    simp only [Bool.and_eq_true, isReadable_iff, decide_eq_true_eq, Option.some.injEq]
    constructor
    · rintro ⟨hreadable, rfl⟩
      exact ⟨rfl, hreadable⟩
    · rintro ⟨rfl, hreadable⟩
      exact ⟨hreadable, rfl⟩

instance (r : Request) (secret : String) : Decidable (r.Presents secret) := decidable_of_iff _ carries_iff

variable {α : Type} {secret : String} {routes : List (Route α)} {r : Request}

/-- The answer to a request that does not present the secret. The path of a route tells the route's methods to one with
another method, and one that asks for no body gets none. -/
def denial (routes : List (Route α)) (method : String) (path : List Char) : Response :=
  match routes.find? fun route => (route.match? path).isSome with
  | none => unauthorized
  | some route =>
    match route.action? method with
    | none => { unauthorized with allow := route.allow }
    | some (_, headOnly) => if headOnly then unauthorized.headOnly else unauthorized

/-- An answer is `403 Unauthorized`. It tells the methods of the path's route to a request with none of them, and may
come without a body if none was asked for. -/
structure IsDenial (routes : List (Route α)) (method : String) (path : List Char) (response : Response) : Prop where
  status : response.status = 403
  type : response.contentType = some plainText
  body : response.body = "Unauthorized" ∨ method = "HEAD" ∧ response.body = ""
  allow : response.allow = [] ∨ ∃ route ∈ routes, (route.match? path).isSome ∧ route.action? method = none ∧
    response.allow = route.allow

theorem isDenial_denial (routes : List (Route α)) (method : String) (path : List Char) :
    IsDenial routes method path (denial routes method path) := by
  unfold denial
  cases hfound : routes.find? fun route => (route.match? path).isSome with
  | none => exact ⟨rfl, rfl, Or.inl rfl, Or.inl rfl⟩
  | some route =>
    have hroute := List.find?_some hfound
    dsimp only
    cases haction : route.action? method with
    | none => exact ⟨rfl, rfl, Or.inl rfl, Or.inr ⟨route, List.mem_of_find?_eq_some hfound, hroute, haction, rfl⟩⟩
    | some x =>
      obtain ⟨a, headOnly⟩ := x
      rcases Route.action?_eq_some haction with ⟨-, rfl⟩ | ⟨hhead, -, rfl⟩
      · exact ⟨rfl, rfl, Or.inl rfl, Or.inl rfl⟩
      · exact ⟨rfl, rfl, Or.inr ⟨hhead, rfl⟩, Or.inl rfl⟩

theorem findSome?_match (routes : List (Route α)) (path : List Char) :
    (routes.findSome? fun route => (route.match? path).map (route, ·)).map (·.1) =
      routes.find? fun route => (route.match? path).isSome := by
  induction routes with
  | nil => rfl
  | cons route routes ih =>
    rw [List.findSome?_cons, List.find?_cons]
    cases route.match? path with
    | none => exact ih
    | some name => rfl

theorem presents_of_dispatch {a : Admitted α} (h : dispatch secret routes r = .ok a) : r.Presents secret :=
  carries_iff.mp (dispatch_eq_ok h).1

theorem dispatch_denied (h : ¬ r.Presents secret) :
    dispatch secret routes r = .error (denial routes r.method r.path) := by
  have hcarries : carries secret r = false := Bool.eq_false_iff.mpr fun hc => h (carries_iff.mp hc)
  rw [dispatch_eq, denial, ← findSome?_match, hcarries]
  cases routes.findSome? fun route => (route.match? r.path).map (route, ·) with
  | none => rfl
  | some found =>
    dsimp only [Option.map_some]
    cases found.1.action? r.method with
    | none => rfl
    | some x => rfl

/-- A request that presents the secret is turned away only for want of a route. -/
theorem status_of_presents {response : Response} (h : r.Presents secret)
    (hresponse : dispatch secret routes r = .error response) : response.status = 404 ∨ response.status = 405 := by
  rw [dispatch_eq, carries_iff.mpr h] at hresponse
  split at hresponse
  · cases hresponse
    exact Or.inl rfl
  · split at hresponse
    · cases hresponse
      exact Or.inr rfl
    · cases hresponse

/-- An interface is guarded by the secret of its state: what it serves is told at once, later, or in another form
(`answer`). -/
structure Guarded {σ ρ : Type} (secret : σ → String) (routes : List (Route α)) (answer : Response → ρ)
    (serve : σ → Request → σ × Nat × ρ) : Prop where
  /-- Only requests that present the secret reach an action. -/
  admits : ∀ s r a, dispatch (secret s) routes r = .ok a → r.Presents (secret s)
  /-- Others change nothing, and are denied at once. -/
  denies : ∀ s r, ¬ r.Presents (secret s) → serve s r = (s, 0, answer (denial routes r.method r.path))
  told : ∀ method path, IsDenial routes method path (denial routes method path)
  /-- To others two states with one secret look alike. -/
  blind : ∀ s t r, secret s = secret t → ¬ r.Presents (secret s) → (serve s r).2 = (serve t r).2

/-- An interface is guarded that answers at once what is not admitted. -/
theorem Guarded.of_dispatch {σ ρ : Type} {secret : σ → String} {answer : Response → ρ}
    {serve : σ → Request → σ × Nat × ρ}
    (h : ∀ s r response, dispatch (secret s) routes r = .error response → serve s r = (s, 0, answer response)) :
    Guarded secret routes answer serve := by
  have denies : ∀ s r, ¬ r.Presents (secret s) → serve s r = (s, 0, answer (denial routes r.method r.path)) :=
    fun s r hr => h s r _ (dispatch_denied hr)
  refine ⟨fun s r a ha => presents_of_dispatch ha, denies, isDenial_denial routes, fun s t r hst hr => ?_⟩
  rw [denies s r hr, denies t r (hst ▸ hr)]

end Muster.Http
