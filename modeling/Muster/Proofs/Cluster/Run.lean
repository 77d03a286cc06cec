import Muster.Cluster.Basic
import Muster.Proofs.Roster.Members
import Muster.Proofs.Roster.Operation

/-! # Runs of a cluster

What can happen to a cluster, one thing after another: calls that change who belongs to it, operations on all
members, outcomes of checks, time, and whatever becomes of the network. The member list is read off the roster and
changes nothing, so that it is no event. After every run the roster is sound, and the nodes that were ever made are
those of the calls that enrolled somebody. -/

namespace Muster

/-- A call that changes who belongs to the cluster. -/
inductive Change
  | enroll (name url version : String)
  | remove (name : String)
  | dissolve

/-- What a worker is enrolled with. -/
structure Enrollment where
  name : String
  url : String
  version : String

/-- The enrollment that a call asks for. A worker without a name counts under its address. -/
def Change.enrollment? : Change → Option Enrollment
  | .enroll name url version => some ⟨if name = "" then url else name, url, version⟩
  | .remove _ => none
  | .dissolve => none

/-- The enrollments of calls, each with whether it was carried out. -/
def enrolled (h : List (Change × Bool)) : List Enrollment :=
  h.filterMap fun (x, done) => if done then x.enrollment? else none

namespace Cluster

/-- Makes a call that changes who belongs to the cluster. -/
def change (c : Cluster) : Change → Cluster × Except ClusterError Unit
  | .enroll name url version => ((c.enroll name url version).1, (c.enroll name url version).2.map fun _ => ())
  | .remove name => c.remove name
  | .dissolve => ({ c with roster := c.roster.dissolve }, .ok ())

/-- What can happen to a cluster. -/
inductive Event
  | changed (x : Change)
  /-- An operation on all members, by somebody who waits no longer than `limit`. -/
  | operated (o : Operation) (limit : Nat)
  /-- A check of a node, a member's or not, comes to an outcome. -/
  | checked (place moment : Nat) (outcome : Except ClusterError String)
  /-- Time goes by, and checks are sent and answered as they are due. -/
  | passed (span : Nat)
  /-- The network becomes another one. -/
  | rewired (net : Network)

/-- The cluster after an event. -/
def react (c : Cluster) : Event → Cluster
  | .changed x => (c.change x).1
  | .operated o limit => (c.after (c.roster.operate c.net limit o)).1
  | .checked place moment x => { c with roster := c.roster.modify place (·.record moment x) }
  | .passed span => c.advance span
  | .rewired net => { c with net := net }

/-- The cluster after some events. -/
def run (c : Cluster) (es : List Event) : Cluster := es.foldl react c

/-- What an event adds to the history of changes. -/
def entry (c : Cluster) : Event → List (Change × Bool)
  | .changed x => [(x, (c.change x).2.isOk)]
  | _ => []

/-- The changes among some events, each with whether it was carried out. -/
def history (c : Cluster) : List Event → List (Change × Bool)
  | [] => []
  | e :: es => c.entry e ++ history (c.react e) es

variable {c : Cluster} {e : Event} {es : List Event}

theorem run_snoc (c : Cluster) (es : List Event) (e : Event) : c.run (es ++ [e]) = (c.run es).react e :=
  List.foldl_append

theorem history_snoc (c : Cluster) (es : List Event) (e : Event) :
    c.history (es ++ [e]) = c.history es ++ (c.run es).entry e := by
  induction es generalizing c with
  | nil => exact List.append_nil _
  | cons a es ih =>
    show c.entry a ++ (c.react a).history (es ++ [e]) = c.entry a ++ (c.react a).history es ++ _
    rw [ih, List.append_assoc]
    rfl

/-- A property that holds at the beginning and survives each event holds after every run. -/
theorem run_invariant {P : Cluster → Prop} (start : P c) (step : ∀ c e, P c → P (c.react e)) : P (c.run es) := by
  induction es generalizing c with
  | nil => exact start
  | cons e es ih => exact ih (step c e start)

/-! ### Calls that enroll -/

/-- The worker of an address can be enrolled under a policy: a client can be made for it. -/
def enrollable (policy : Policy) (url : String) : Prop :=
  url ≠ "" ∧ (∃ base, Url.parse url = .ok base) ∧ Http.isHeaderValue policy.secret.toList = true

/-- A client is made for each address that is one, with each secret that a header can carry. -/
theorem make_eq_ok_iff (what url secret : String) :
    (∃ client, Client.make what url secret = .ok client) ↔
      (∃ base, Url.parse url = .ok base) ∧ Http.isHeaderValue secret.toList = true := by
  unfold Client.make
  cases Url.parse url with
  | error e => simp
  | ok base => cases Http.isHeaderValue secret.toList <;> simp

theorem make_node {name url version : String} {policy : Policy} {moment : Nat} {n : Node}
    (h : Node.make name url version policy moment = .ok n) :
    ∃ client, Client.make "node" url policy.secret = .ok client ∧
      n = ⟨name, url, client, policy, .registered moment version, .stopped⟩ := by
  unfold Node.make at h
  split at h
  · cases h
  · exact ⟨_, ‹_›, (Except.ok.inj h).symm⟩

/-- An enrollment that is refused leaves everything as it was; one that is carried out seats a node made for it. -/
theorem enroll_cases (c : Cluster) (name url version : String) :
    (¬ enrollable c.roster.policy url ∧ ∃ e, c.enroll name url version = (c, .error e)) ∨
      enrollable c.roster.policy url ∧ ∃ n,
        Node.make (if name = "" then url else name) url version c.roster.policy c.clock.moment = .ok n ∧
        c.enroll name url version =
          ({ c with clock := c.clock.take, roster := c.roster.seat c.clock.now n }, .ok c.roster.common) := by
  unfold enroll Roster.enroll
  by_cases hurl : url = ""
  · rw [if_pos hurl]
    exact Or.inl ⟨fun h => h.1 hurl, _, rfl⟩
  · rw [if_neg hurl]
    cases hn : Node.make (if name = "" then url else name) url version c.roster.policy c.clock.moment with
    | error e =>
      refine Or.inl ⟨fun h => ?_, _, rfl⟩
      obtain ⟨client, hclient⟩ := (make_eq_ok_iff "node" url c.roster.policy.secret).mpr h.2
      unfold Node.make at hn
      rw [hclient] at hn
      cases hn
    | ok n =>
      obtain ⟨client, hclient, -⟩ := make_node hn
      exact Or.inr ⟨⟨hurl, (make_eq_ok_iff ..).mp ⟨client, hclient⟩⟩, n, rfl, rfl⟩

theorem remove_cases (c : Cluster) (name : String) :
    (name ∉ c.roster.members.map (·.1) ∧ c.remove name = (c, .error (.nodeNotFound name))) ∨
      name ∈ c.roster.members.map (·.1) ∧ ∃ t, c.roster.remove name = .ok t ∧
        c.remove name = ({ c with roster := t }, .ok ()) := by
  unfold remove
  cases hfind : c.roster.find? name with
  | none =>
    refine Or.inl ⟨Roster.find?_eq_none_iff.mp hfind, ?_⟩
    unfold Roster.remove
    rw [hfind]
  | some id =>
    refine Or.inr ⟨List.mem_map.mpr ⟨_, Roster.find?_eq_some hfind, rfl⟩, ?_⟩
    unfold Roster.remove
    rw [hfind]
    exact ⟨_, rfl, rfl⟩

/-! ### What an event leaves -/

theorem core_watchAll (until_ : Nat) (net : Network) (clock : Clock) (nodes : List Node) :
    (watchAll until_ net clock nodes).2.2.map Node.core = nodes.map Node.core := by
  induction nodes generalizing net clock with
  | nil => rfl
  | cons n nodes ih => exact List.cons_eq_cons.mpr ⟨Node.core_watch n net clock until_, ih _ _⟩

/-- An event that changes nobody's membership leaves the roster as it was but for what is known of the nodes. -/
theorem react_quiet (c : Cluster) (he : ∀ x, e ≠ .changed x) : (c.react e).roster.Same c.roster := by
  cases e with
  | changed x => exact absurd rfl (he x)
  | operated o limit => exact .refl c.roster
  | checked place moment x =>
    refine ⟨rfl, rfl, List.ext_getElem? fun i => ?_⟩
    show ((c.roster.nodes.modify place (·.record moment x)).map Node.core)[i]? = _
    rw [List.getElem?_map, List.getElem?_map, List.getElem?_modify]
    cases c.roster.nodes[i]? with
    | none => rfl
    | some n =>
      show some (if place = i then n.record moment x else n).core = some n.core
      split <;> rfl
  | passed span => exact ⟨rfl, rfl, core_watchAll _ _ _ _⟩
  | rewired net => exact .refl c.roster

/-- What an event makes of the roster: it leaves it the same, seats a node that was made for an enrollment, removes a
member, or dismisses all. -/
theorem react_cases (c : Cluster) (e : Event) :
    ((c.react e).roster.Same c.roster ∧ enrolled (c.entry e) = []) ∨
    (∃ name url version n, url ≠ "" ∧
      Node.make (if name = "" then url else name) url version c.roster.policy c.clock.moment = .ok n ∧
      (c.react e).roster = c.roster.seat c.clock.now n ∧ enrolled (c.entry e) = [⟨n.name, n.url, version⟩]) ∨
    (∃ name t, c.roster.remove name = .ok t ∧ (c.react e).roster = t ∧ enrolled (c.entry e) = []) ∨
    (c.react e).roster = c.roster.dissolve ∧ enrolled (c.entry e) = [] := by
  cases e with
  | changed x =>
    cases x with
    | enroll name url version =>
      show ((c.enroll name url version).1.roster.Same c.roster ∧
        enrolled [(_, ((c.enroll name url version).2.map fun _ => ()).isOk)] = []) ∨ (∃ name' url' version' n, _ ∧ _ ∧
        (c.enroll name url version).1.roster = c.roster.seat c.clock.now n ∧
        enrolled [(_, ((c.enroll name url version).2.map fun _ => ()).isOk)] = [⟨n.name, n.url, version'⟩]) ∨ _
      rcases c.enroll_cases name url version with ⟨-, e, he⟩ | ⟨⟨hurl, -⟩, n, hn, he⟩
      · rw [he]
        exact Or.inl ⟨.refl c.roster, rfl⟩
      · rw [he]
        refine Or.inr (Or.inl ⟨name, url, version, n, hurl, hn, rfl, ?_⟩)
        obtain ⟨client, -, rfl⟩ := make_node hn
        rfl
    | remove name =>
      have hnone : enrolled (c.entry (.changed (.remove name))) = [] := by
        show enrolled [(_, (c.remove name).2.isOk)] = []
        cases (c.remove name).2.isOk <;> rfl
      rcases c.remove_cases name with ⟨-, he⟩ | ⟨-, t, ht, he⟩
      · refine Or.inl ⟨?_, hnone⟩
        show (c.remove name).1.roster.Same c.roster
        rw [he]
        exact .refl c.roster
      · refine Or.inr (Or.inr (Or.inl ⟨name, t, ht, ?_, hnone⟩))
        show (c.remove name).1.roster = t
        rw [he]
    | dissolve => exact Or.inr (Or.inr (Or.inr ⟨rfl, rfl⟩))
  | operated o limit => exact Or.inl ⟨c.react_quiet fun _ => by simp, rfl⟩
  | checked place moment x => exact Or.inl ⟨c.react_quiet fun _ => by simp, rfl⟩
  | passed span => exact Or.inl ⟨c.react_quiet fun _ => by simp, rfl⟩
  | rewired net => exact Or.inl ⟨c.react_quiet fun _ => by simp, rfl⟩

/-! ### Runs -/

theorem policy_react (c : Cluster) (e : Event) : (c.react e).roster.policy = c.roster.policy := by
  rcases c.react_cases e with ⟨hsame, -⟩ | ⟨-, -, -, n, -, -, he, -⟩ | ⟨name, t, ht, he, -⟩ | ⟨he, -⟩
  · exact hsame.policy
  · rw [he]
    exact Roster.policy_modifyAll c.roster
  · rw [he]
    obtain ⟨id, -, rfl⟩ := Roster.remove_eq_ok ht
    rfl
  · rw [he]
    exact Roster.policy_modifyAll c.roster

/-- Whatever happens to a cluster, its roster stays sound. -/
theorem sound_react (h : c.roster.Sound) (e : Event) : (c.react e).roster.Sound := by
  rcases c.react_cases e with ⟨hsame, -⟩ | ⟨name, url, version, n, hurl, hn, he, -⟩ | ⟨name, t, ht, he, -⟩ | ⟨he, -⟩
  · exact h.of_same hsame
  · rw [he]
    obtain ⟨client, hclient, rfl⟩ := make_node hn
    refine h.seat c.clock.now (fun hname => ?_) hurl ⟨rfl, hclient⟩
    -- A worker counts under its name, or else under its address; neither is empty.
    have hname : (if name = "" then url else name) = "" := hname
    split at hname
    · exact hurl hname
    · exact absurd hname ‹_›
  · rw [he]
    exact h.remove ht
  · rw [he]
    exact h.dissolve

variable {policy : Policy} {common : CommonSettings} {net : Network}

theorem sound_run (policy : Policy) (common : CommonSettings) (net : Network) (es : List Event) :
    ((start policy common net).run es).roster.Sound :=
  run_invariant (P := fun c => c.roster.Sound) (Roster.empty_sound policy common) fun _ e h => sound_react h e

theorem policy_run (policy : Policy) (common : CommonSettings) (net : Network) (es : List Event) :
    ((start policy common net).run es).roster.policy = policy :=
  run_invariant (P := fun c => c.roster.policy = policy) rfl fun c e h => (c.policy_react e).trans h

/-- Nodes are made by calls that enroll somebody, and by nothing else. -/
theorem nodes_react (c : Cluster) (e : Event) :
    (c.react e).roster.nodes.map (fun n => (n.name, n.url)) =
      c.roster.nodes.map (fun n => (n.name, n.url)) ++ (enrolled (c.entry e)).map fun x => (x.name, x.url) := by
  -- Starting and stopping checks makes no other node of any.
  have stopped : ∀ ids, (c.roster.modifyAll ids Node.stop).nodes.map (fun n => (n.name, n.url)) =
      c.roster.nodes.map fun n => (n.name, n.url) := fun ids =>
    Roster.map_of_map (Roster.identity_modifyAll c.roster ids Node.identity_stop) fun i => (i.1, i.2.1)
  rcases c.react_cases e with
    ⟨hsame, hnone⟩ | ⟨-, -, version, n, -, -, he, hone⟩ | ⟨name, t, ht, he, hnone⟩ | ⟨he, hnone⟩
  · rw [hnone]
    exact (Roster.map_of_map hsame.cores fun k => (k.1.1, k.1.2.1)).trans (List.append_nil _).symm
  · rw [he, hone]
    refine (List.map_append ..).trans ?_
    exact congrArg (· ++ _) (stopped _)
  · rw [he, hnone]
    obtain ⟨id, -, rfl⟩ := Roster.remove_eq_ok ht
    exact (stopped [id]).trans (List.append_nil _).symm
  · rw [he, hnone]
    exact (stopped _).trans (List.append_nil _).symm

theorem nodes_run (c : Cluster) (es : List Event) :
    (c.run es).roster.nodes.map (fun n => (n.name, n.url)) =
      c.roster.nodes.map (fun n => (n.name, n.url)) ++ (enrolled (c.history es)).map fun x => (x.name, x.url) := by
  induction es generalizing c with
  | nil => exact (List.append_nil _).symm
  | cons e es ih =>
    show ((c.react e).run es).roster.nodes.map _ = _ ++ (enrolled (c.entry e ++ (c.react e).history es)).map _
    rw [ih, nodes_react, List.append_assoc, ← List.map_append]
    exact congrArg (fun l => _ ++ List.map _ l) List.filterMap_append.symm

theorem change_refused {x : Change} {e : ClusterError} (h : (c.change x).2 = .error e) : (c.change x).1 = c := by
  cases x with
  | enroll name url version =>
    show (c.enroll name url version).1 = c
    rcases c.enroll_cases name url version with ⟨-, e, he⟩ | ⟨-, n, -, he⟩
    · rw [he]
    · rw [change, he] at h
      cases h
  | remove name =>
    show (c.remove name).1 = c
    rcases c.remove_cases name with ⟨-, he⟩ | ⟨-, t, -, he⟩
    · rw [he]
    · rw [change, he] at h
      cases h
  | dissolve => cases h

/-- After everything that can happen to a cluster that began empty, its roster is sound: members are filed under their
own names, no two share a name or an address, members are checked, and no other node that was ever enrolled is. A
worker can be enrolled just if its address is one and the secret fits into a header, and members are removed by their
names; a change that is refused leaves everything as it was. -/
theorem run_registry (policy : Policy) (common : CommonSettings) (net : Network) (es : List Event) :
    let c := (start policy common net).run es
    c.roster.Sound ∧
    c.roster.nodes.map (fun n => (n.name, n.url)) =
      (enrolled ((start policy common net).history es)).map (fun x => (x.name, x.url)) ∧
    (∀ name url version, (∃ e, (c.change (.enroll name url version)).2 = .error e) ↔
      url = "" ∨ (∃ e, Url.parse url = .error e) ∨ Http.isHeaderValue policy.secret.toList = false) ∧
    (∀ name, (∃ e, (c.change (.remove name)).2 = .error e) ↔ name ∉ c.roster.members.map (·.1)) ∧
    ∀ x e, (c.change x).2 = .error e → (c.change x).1 = c := by
  intro c
  refine ⟨sound_run policy common net es, nodes_run _ es, fun name url version => ?_, fun name => ?_,
    fun x e => change_refused⟩
  · have hpolicy : c.roster.policy = policy := policy_run policy common net es
    have hnot : ¬ enrollable policy url ↔
        url = "" ∨ (∃ e, Url.parse url = .error e) ∨ Http.isHeaderValue policy.secret.toList = false := by
      unfold enrollable
      cases Url.parse url <;> by_cases hurl : url = "" <;> simp [hurl]
    rw [← hnot, ← hpolicy]
    show (∃ e, (c.enroll name url version).2.map (fun _ => ()) = .error e) ↔ _
    rcases c.enroll_cases name url version with ⟨h, e, he⟩ | ⟨h, n, -, he⟩
    · rw [he]
      exact ⟨fun _ => h, fun _ => ⟨e, rfl⟩⟩
    · rw [he]
      exact ⟨fun ⟨_, hx⟩ => (by cases hx), fun hx => absurd h hx⟩
  · show (∃ e, (c.remove name).2 = .error e) ↔ _
    rcases c.remove_cases name with ⟨h, he⟩ | ⟨h, t, -, he⟩
    · rw [he]
      exact ⟨fun _ => h, fun _ => ⟨_, rfl⟩⟩
    · rw [he]
      exact ⟨fun ⟨_, hx⟩ => (by cases hx), fun hx => absurd h hx⟩

end Cluster

end Muster
