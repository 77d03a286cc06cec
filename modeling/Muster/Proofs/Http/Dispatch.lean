import Muster.Http.Routing

/-! # Admission

What is known of a request that was admitted, and of the answer to one that was not. -/

namespace Muster

namespace Http

theorem mem_of_lookup {α β : Type} [BEq α] [LawfulBEq α] {l : List (α × β)} {a : α} {b : β}
    (h : l.lookup a = some b) : (a, b) ∈ l := by
  obtain ⟨l₁, l₂, rfl, -⟩ := List.lookup_eq_some_iff.mp h
  exact List.mem_append_right l₁ List.mem_cons_self

section
variable {α : Type} {secret : String} {routes : List (Route α)} {route : Route α} {r : Request} {a : Admitted α}
variable {response : Response}

/-- What a route does for a method, and whether that is `GET` without a body. -/
def Route.action? (route : Route α) (method : String) : Option (α × Bool) :=
  match route.methods.lookup method with
  | some a => some (a, false)
  | none => if method = "HEAD" then (route.methods.lookup "GET").map (·, true) else none

theorem Route.action?_eq_some {method : String} {action : α} {headOnly : Bool}
    (h : route.action? method = some (action, headOnly)) :
    (method, action) ∈ route.methods ∧ headOnly = false ∨
      method = "HEAD" ∧ ("GET", action) ∈ route.methods ∧ headOnly = true := by
  unfold Route.action? at h
  split at h
  · rename_i hlookup
    cases h
    exact Or.inl ⟨mem_of_lookup hlookup, rfl⟩
  · split at h
    · obtain ⟨action', hlookup, heq⟩ := Option.map_eq_some_iff.mp h
      cases heq
      exact Or.inr ⟨‹_›, mem_of_lookup hlookup, rfl⟩
    · cases h

/-- Admission goes by the route of the path, then by the method, and by the secret last. -/
theorem dispatch_eq (secret : String) (routes : List (Route α)) (r : Request) : dispatch secret routes r =
    match routes.findSome? (fun route => (route.match? r.path).map (route, ·)) with
    | none => .error (if carries secret r then .empty 404 else unauthorized)
    | some (route, name) =>
      match route.action? r.method with
      | none => .error { (if carries secret r then Response.empty 405 else unauthorized) with allow := route.allow }
      | some (action, headOnly) =>
        if carries secret r then .ok ⟨action, name, headOnly⟩
        else .error (if headOnly then unauthorized.headOnly else unauthorized) := rfl

/-- An admitted request carries the secret, and its path and method are those of a route. -/
theorem dispatch_eq_ok (h : dispatch secret routes r = .ok a) : carries secret r = true ∧
    ∃ route ∈ routes, route.match? r.path = some a.name ∧ route.action? r.method = some (a.action, a.headOnly) := by
  rw [dispatch_eq] at h
  split at h
  · cases h
  · rename_i route name hfound
    obtain ⟨route', hmem, hmatch⟩ := List.exists_of_findSome?_eq_some hfound
    obtain ⟨name', hname, heq⟩ := Option.map_eq_some_iff.mp hmatch
    cases heq
    split at h
    · cases h
    · rename_i action headOnly hmethod
      split at h
      · cases h
        exact ⟨‹_›, route, hmem, hname, hmethod⟩
      · cases h

/-- A request that carries the secret reaches the action of the first route that its path matches. -/
theorem dispatch_of_pieces {p name : List Char} {route : Route α} {action : α}
    (hcarries : carries secret r = true) (hpath : r.path = '/' :: p)
    (hroute : routes.findSome? (fun route => (matchPieces route.path (Text.split '/' p)).map (route, ·)) =
      some (route, name)) (hmethod : route.methods.lookup r.method = some action) :
    dispatch secret routes r = .ok ⟨action, name, false⟩ := by
  have hfound : routes.findSome? (fun route => (route.match? r.path).map (route, ·)) = some (route, name) := by
    rw [← hroute, hpath]
    rfl
  have haction : route.action? r.method = some (action, false) := by
    unfold Route.action?
    rw [hmethod]
  rw [dispatch_eq, hfound]
  dsimp only
  rw [haction, hcarries]
  rfl

theorem dispatch_refused (h : dispatch secret routes r = .error response) : response.isSuccess = false := by
  rw [dispatch_eq] at h
  split at h
  · cases h
    split <;> rfl
  · split at h
    · cases h
      show Response.isSuccess (if carries secret r then Response.empty 405 else unauthorized) = false
      split <;> rfl
    · split at h
      · cases h
      · cases h
        split <;> rfl

theorem nameOf_refused {s : List Char} (h : nameOf s = .error response) : response.isSuccess = false := by
  unfold nameOf at h
  split at h
  · cases h
  · cases h
    rfl

theorem bodyOf_refused {read : Json.Decoder α} (h : bodyOf read r = .error response) :
    response.isSuccess = false := by
  unfold bodyOf at h
  split at h
  · cases h
    rfl
  · split at h
    · split at h <;> cases h <;> rfl
    · cases h
      rfl

end

end Http

theorem ClusterError.not_success (e : ClusterError) : (Http.Response.ofError e).isSuccess = false := by
  cases e <;> rfl

end Muster
