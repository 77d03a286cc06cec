import Muster.Proofs.Cluster.Convergence

/-! # What requests change

Of all requests to the interface of the management node only those change who belongs to the cluster that post to `/node`
or delete there, present the secret and are answered with success. Every other request leaves the roster alone, whatever
it asks for, wherever it is turned away, and whatever comes of the calls that it makes to members. -/

namespace Muster.Cluster

open Http

variable {c : Cluster} {limit : Nat} {r : Request} {a : Admitted Action}

/-! ### What an action changes -/

/-- A request that reaches `POST` or `DELETE` on `/node` asks for a change. -/
inductive AskedBy (r : Request) : Change → Prop
  | enroll {field : String → String} (hmethod : r.method = "POST")
      (hfields : fieldsOf ["name", "url", "version"] r = .ok field) :
      AskedBy r (.enroll (field "name") (field "url") (field "version"))
  | remove {field : String → String} (hmethod : r.method = "DELETE") (hfields : fieldsOf ["name"] r = .ok field)
      (hname : field "name" ≠ "") : AskedBy r (.remove (field "name"))

/-- A cluster is another one after the change that a request asks for. -/
def Changed (c : Cluster) (r : Request) (c' : Cluster) : Prop :=
  ∃ x, AskedBy r x ∧ (c.change x).2 = .ok () ∧ c' = (c.change x).1

/-- A request for a change is answered with 200 if the change was carried out, and nothing has changed otherwise. -/
def Answers (c : Cluster) (r : Request) (x : Cluster × Response) : Prop :=
  x.2.status ≠ 200 ∧ x.1 = c ∨ x.2.status = 200 ∧ Changed c r x.1

theorem status_of_refused {response : Response} (h : response.isSuccess = false) : response.status ≠ 200 := by
  intro hstatus
  unfold Response.isSuccess at h
  rw [hstatus] at h
  cases h

theorem answers_enroll (c : Cluster) (hmethod : r.method = "POST") : Answers c r (c.enrollAnswer r) := by
  unfold enrollAnswer
  cases hfields : fieldsOf ["name", "url", "version"] r with
  | error response => exact Or.inl ⟨status_of_refused (fieldsOf_refused hfields), rfl⟩
  | ok field =>
    have hasked := AskedBy.enroll hmethod hfields
    dsimp only
    rcases c.enroll_cases (field "name") (field "url") (field "version") with ⟨-, e, he⟩ | ⟨-, n, -, he⟩
    · rw [he]
      exact Or.inl ⟨status_of_refused e.not_success, rfl⟩
    · rw [he]
      exact Or.inr ⟨rfl, _, hasked, by rw [change, he]; rfl, by rw [change, he]⟩

theorem answers_remove (c : Cluster) (hmethod : r.method = "DELETE") : Answers c r (c.removeAnswer r) := by
  unfold removeAnswer
  cases hfields : fieldsOf ["name"] r with
  | error response => exact Or.inl ⟨status_of_refused (fieldsOf_refused hfields), rfl⟩
  | ok field =>
    dsimp only
    by_cases hname : field "name" = ""
    · rw [if_pos hname]
      exact Or.inl ⟨status_of_refused (ClusterError.not_success _), rfl⟩
    · have hasked := AskedBy.remove hmethod hfields hname
      rw [if_neg hname]
      rcases c.remove_cases (field "name") with ⟨-, he⟩ | ⟨-, t, -, he⟩
      · rw [he]
        exact Or.inl ⟨status_of_refused (ClusterError.not_success _), rfl⟩
      · rw [he]
        exact Or.inr ⟨rfl, _, hasked, by rw [change, he], by rw [change, he]⟩

/-- No other action changes the roster. -/
theorem perform_quiet (c : Cluster) (limit : Nat) {action : Action} (hchange : action ≠ .enroll ∧ action ≠ .remove)
    (name : List Char) (r : Request) : (c.perform limit action name r).1.roster = c.roster := by
  cases action with
  | enroll => exact absurd rfl hchange.1
  | remove => exact absurd rfl hchange.2
  | version => rfl
  | members => rfl
  | _ =>
    unfold perform
    dsimp only
    split <;> rfl

/-! ### What a request changes -/

/-- A request presents the secret, is one of the two that change who belongs to the cluster, and is answered with
success. -/
structure Accepted (c : Cluster) (limit : Nat) (r : Request) : Prop where
  presents : r.Presents c.roster.policy.secret
  path : r.path = "/node".toList
  method : r.method = "POST" ∨ r.method = "DELETE"
  status : (c.serve limit r).2.2.status = 200

/-- The actions that change who belongs to the cluster stand behind one path, each behind a method of its own. -/
theorem node_of_dispatch {secret : String} (h : dispatch secret routes r = .ok a) :
    (a.action = .enroll → r.path = "/node".toList ∧ r.method = "POST") ∧
      (a.action = .remove → r.path = "/node".toList ∧ r.method = "DELETE") := by
  have table : ∀ route ∈ routes, ∀ y ∈ route.methods,
      (y.2 = .enroll → route.path = [.fixed "node"] ∧ y.1 = "POST") ∧
        (y.2 = .remove → route.path = [.fixed "node"] ∧ y.1 = "DELETE") := by decide
  obtain ⟨-, route, hroute, hmatch, haction⟩ := dispatch_eq_ok h
  rcases Route.action?_eq_some haction with ⟨hmem, -⟩ | ⟨-, hmem, -⟩
  · obtain ⟨henroll, hremove⟩ := table route hroute _ hmem
    exact ⟨fun ha => ⟨path_of_match hmatch (henroll ha).1, (henroll ha).2⟩,
      fun ha => ⟨path_of_match hmatch (hremove ha).1, (hremove ha).2⟩⟩
  · -- Neither of them stands behind `GET`.
    obtain ⟨henroll, hremove⟩ := table route hroute _ hmem
    exact ⟨fun ha => absurd (henroll ha).2 (by simp), fun ha => absurd (hremove ha).2 (by simp)⟩

/-- Behind that path and these methods stands nothing else. -/
theorem action_of_node {secret : String} (h : dispatch secret routes r = .ok a) (hpath : r.path = "/node".toList)
    (hmethod : r.method = "POST" ∨ r.method = "DELETE") : a.action = .enroll ∨ a.action = .remove := by
  have table : ∀ route ∈ routes, ∀ method ∈ ["POST", "DELETE"], (route.match? "/node".toList).isSome = true →
      (route.action? method).all (fun found => found.1 = .enroll ∨ found.1 = .remove) = true := by decide
  obtain ⟨-, route, hroute, hmatch, haction⟩ := dispatch_eq_ok h
  have hfound := table route hroute r.method (by simpa using hmethod) (by rw [← hpath, hmatch]; rfl)
  rw [haction] at hfound
  simpa using hfound

theorem status_deliver (a : Admitted Action) (response : Response) : (a.deliver response).status = response.status := by
  unfold Admitted.deliver
  split <;> rfl

/-- A request is accepted, and the change that it asks for is carried out; or it leaves the roster as it was. -/
theorem serve_cases (c : Cluster) (limit : Nat) (r : Request) :
    (Accepted c limit r ∧ Changed c r (c.serve limit r).1) ∨
      ¬ Accepted c limit r ∧ (c.serve limit r).1.roster = c.roster := by
  cases hdispatch : dispatch c.roster.policy.secret routes r with
  | error response =>
    have hserve : c.serve limit r = (c, 0, response) := by
      unfold serve
      rw [hdispatch]
    refine Or.inr ⟨fun h => ?_, by rw [hserve]⟩
    have hstatus := h.status
    rw [hserve] at hstatus
    exact status_of_refused (dispatch_refused hdispatch) hstatus
  | ok a =>
    have hserve : c.serve limit r = ((c.perform limit a.action a.name r).1, (c.perform limit a.action a.name r).2.1,
        a.deliver (c.perform limit a.action a.name r).2.2) := by
      unfold serve
      rw [hdispatch]
    have hpresents := presents_of_dispatch hdispatch
    obtain ⟨henroll, hremove⟩ := node_of_dispatch hdispatch
    -- What answers a request for a change decides whether it is accepted.
    have answered {x : Cluster × Response} (hx : (c.serve limit r).1 = x.1 ∧ (c.serve limit r).2.2 = a.deliver x.2)
        (hpath : r.path = "/node".toList) (hmethod : r.method = "POST" ∨ r.method = "DELETE") (h : Answers c r x) :
        (Accepted c limit r ∧ Changed c r (c.serve limit r).1) ∨
          ¬ Accepted c limit r ∧ (c.serve limit r).1.roster = c.roster := by
      obtain ⟨hcluster, hresponse⟩ := hx
      have hstatus : (c.serve limit r).2.2.status = x.2.status := by rw [hresponse, status_deliver]
      rw [hcluster]
      rcases h with ⟨hrefused, hsame⟩ | ⟨hok, hchanged⟩
      · exact Or.inr ⟨fun h => hrefused (hstatus ▸ h.status), by rw [hsame]⟩
      · exact Or.inl ⟨⟨hpresents, hpath, hmethod, hstatus.trans hok⟩, hchanged⟩
    by_cases hjoin : a.action = .enroll
    · obtain ⟨hpath, hmethod⟩ := henroll hjoin
      exact answered (by rw [hserve, hjoin]; exact ⟨rfl, rfl⟩) hpath (Or.inl hmethod) (answers_enroll c hmethod)
    · by_cases hleave : a.action = .remove
      · obtain ⟨hpath, hmethod⟩ := hremove hleave
        exact answered (by rw [hserve, hleave]; exact ⟨rfl, rfl⟩) hpath (Or.inr hmethod) (answers_remove c hmethod)
      · have hquiet := c.perform_quiet limit ⟨hjoin, hleave⟩ a.name r
        rw [hserve]
        exact Or.inr ⟨fun h => (action_of_node hdispatch h.path h.method).elim hjoin hleave, hquiet⟩

/-- A request that changes who belongs to the cluster presents the secret, is a `POST` or `DELETE` on `/node`, and is
answered with 200. Every other request leaves all members and all nodes as they were, and while time goes by until its
answer nobody's checks are started or stopped. A request of the first kind has just the change carried out that it asks
for. -/
theorem serve_changes (c : Cluster) (limit : Nat) (r : Request) :
    ((c.serve limit r).1.roster.members ≠ c.roster.members → Accepted c limit r) ∧
    (¬ Accepted c limit r → (c.serve limit r).1.roster = c.roster ∧
      ∀ span, ((c.serve limit r).1.advance span).roster.Same c.roster) ∧
    (Accepted c limit r → ∃ x, AskedBy r x ∧ (c.change x).2 = .ok () ∧ (c.serve limit r).1 = (c.change x).1) := by
  rcases c.serve_cases limit r with ⟨haccepted, hchanged⟩ | ⟨hnot, hroster⟩
  · exact ⟨fun _ => haccepted, fun hnot => absurd haccepted hnot, fun _ => hchanged⟩
  · refine ⟨fun hdiffer => absurd (by rw [hroster]) hdiffer, fun _ => ⟨hroster, fun span => ?_⟩,
      fun haccepted => absurd haccepted hnot⟩
    have hsame := (c.serve limit r).1.react_quiet (e := .passed span) fun _ => by simp
    rw [hroster] at hsame
    exact hsame

/-- A worker that posts the address of a member takes the member's place. A request to remove somebody who is no member
is turned away, and nobody moves. -/
theorem serve_changes_replaced :
    let c := (start hastyPolicy blankSettings twoHosts).run threeWorkers
    let secret := [("x-cluster-secret", "secret")]
    let posted : Request :=
      ⟨"POST", "/node".toList, some "name=four&url=http://[::1]:81/&version=v1".toList, secret, ""⟩
    let deleted : Request := ⟨"DELETE", "/node".toList, some "name=five".toList, secret, ""⟩
    (c.serve 2000 posted).1.roster.members = [("two", 1), ("three", 2), ("four", 3)] ∧ Accepted c 2000 posted ∧
    (∃ x, AskedBy posted x ∧ (c.change x).2 = .ok ()) ∧
    (c.serve 2000 deleted).2.2.status = 404 ∧ ¬ Accepted c 2000 deleted ∧
    (c.serve 2000 deleted).1.roster = c.roster := by
  intro c secret posted deleted
  have hmembers : (c.serve 2000 posted).1.roster.members = [("two", 1), ("three", 2), ("four", 3)] := by decide +kernel
  have hdiffer : (c.serve 2000 posted).1.roster.members ≠ c.roster.members := by
    rw [hmembers]
    decide +kernel
  have hstatus : (c.serve 2000 deleted).2.2.status = 404 := by decide +kernel
  have hnot : ¬ Accepted c 2000 deleted := fun h => absurd (hstatus.symm.trans h.status) (by decide)
  obtain ⟨haccepted, -, hchange⟩ := serve_changes c 2000 posted
  obtain ⟨-, hquiet, -⟩ := serve_changes c 2000 deleted
  obtain ⟨x, hasked, hdone, -⟩ := hchange (haccepted hdiffer)
  exact ⟨hmembers, haccepted hdiffer, ⟨x, hasked, hdone⟩, hstatus, hnot, (hquiet hnot).1⟩

end Muster.Cluster
