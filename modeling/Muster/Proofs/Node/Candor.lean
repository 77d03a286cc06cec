import Muster.Proofs.Node.Outcomes
import Muster.Proofs.Node.Relay
import Muster.Proofs.Node.UnderWay

/-! # Failures have texts

A check that fails does so with a text: the address is none that a request can go to, nobody is there, the time is over,
the answer is no success and has a body or at least a status, or it is no document that tells a version. So a node that
shows no text has no failure to hide. -/

namespace Muster

/-! ### Checks under way -/

/-- A check under way that fails in the end does so with a text, whatever becomes of the network meanwhile. -/
def Pending.Telling (p : Pending) : Prop :=
  ∀ (net : Network) (e : CallError), (p.land net WorkerCall.ping).2 = .error e → e.text ≠ ""

theorem Client.telling_launch (c : Client) (net : Network) (within : Nat) :
    (c.launch net within WorkerCall.ping).2.2.Telling := by
  intro later e h
  unfold launch at h
  cases hrequest : c.request WorkerCall.ping with
  | error e' =>
    rw [hrequest] at h
    obtain rfl := Except.error.inj h
    exact Client.text_of_request hrequest
  | ok o =>
    rw [hrequest] at h
    exact Call.text_of_outcome (fun _ _ hread => text_of_readBody hread) h

/-! ### Nodes -/

/-- An outcome that is a failure has a text. -/
def Health.Outcome.Telling (o : Health.Outcome) : Prop := ∀ e, o.result = .error e → e.text ≠ ""

namespace Node

variable {n : Node}

/-- What a node shows of a failure is a text, and so it will be with the checks under way. -/
structure Candid (n : Node) : Prop where
  error : n.health.error ≠ some ""
  inFlight : ∀ c ∈ n.schedule.inFlight, c.result.Telling

theorem text_outcome {α : Type} {x : Except CallError α} (n : Node) (hx : ∀ e, x = .error e → e.text ≠ "") :
    ∀ f, n.outcome x = .error f → f.text ≠ "" := by
  intro f hf
  cases x with
  | ok a => cases hf
  | error e =>
    have htext := hx e rfl
    cases e with
    | timedOut url =>
      obtain rfl := Except.error.inj hf
      exact ClusterError.text_timeout n.policy.timeout
    | _ =>
      obtain rfl := Except.error.inj hf
      exact htext

theorem Candid.checking (h : n.Candid) : n.Checking Pending.Telling := h.inFlight

/-- An outcome that has a text leaves no failure without one. -/
theorem error_take {o : Health.Outcome} (ho : o.Telling) (h : Health) : (h.take o).error ≠ some "" := by
  obtain ⟨moment, result⟩ := o
  cases result with
  | ok version => exact fun htext => (by cases htext)
  | error e => exact fun htext => ho e rfl (Option.some.inj htext)

theorem error_foldl {os : List Health.Outcome} (hos : ∀ o ∈ os, o.Telling) {h : Health} (hh : h.error ≠ some "") :
    (os.foldl Health.take h).error ≠ some "" := by
  induction os generalizing h with
  | nil => exact hh
  | cons o os ih =>
    obtain ⟨ho, hos⟩ := List.forall_mem_cons.mp hos
    exact ih hos (error_take ho h)

theorem candid_make {name url version : String} {policy : Policy} {moment : Nat}
    (h : make name url version policy moment = .ok n) : n.Candid where
  error := by
    unfold make at h
    split at h <;> cases h
    exact nofun
  inFlight := Checking.of_made h

theorem Candid.stop (h : n.Candid) : n.stop.Candid where
  error := h.error
  inFlight := h.checking.stop

theorem Candid.start (h : n.Candid) (now : Nat) : (n.start now).Candid where
  error := h.error
  inFlight := h.checking.start now

/-- What is found where a check ends that fails with a text is told with a text if it is a failure. -/
theorem Happening.telling_finding {x : Happening} (hx : ∀ c, x.ending? = some c → c.result.Telling) {f : Finding}
    (hf : x.finding? = some f) : f.told.Telling := by
  rw [x.finding?_eq] at hf
  obtain ⟨c, hc, rfl⟩ := Option.map_eq_some_iff.mp hf
  exact x.node.text_outcome (hx c hc x.net)

/-- A candid node stays candid while it is watched, and whatever is found of it then is told with a text if it is a
failure. -/
theorem Candid.watch (h : n.Candid) (net : Network) (clock : Clock) (until_ : Nat) :
    (n.watch net clock until_).2.2.Candid ∧ ∀ f ∈ findings (n.happenings net clock until_), f.told.Telling := by
  obtain ⟨hchecking, hended⟩ := h.checking.watch Client.telling_launch net clock until_
  have htold : ∀ f ∈ findings (n.happenings net clock until_), f.told.Telling := by
    intro f hf
    obtain ⟨x, hx, hfound⟩ := List.mem_filterMap.mp hf
    exact Happening.telling_finding (hended x hx) hfound
  refine ⟨⟨?_, hchecking⟩, htold⟩
  rw [health_watch, ← foldl_told]
  exact error_foldl (List.forall_mem_map.mpr htold) h.error

/-- Where a failure has a text, the row of a node is ready just if it shows no text and the cluster's version. -/
theorem Candid.row_ready (h : n.Candid) :
    n.row.ready = true ↔ n.row.error = "" ∧ n.row.version = n.policy.clusterVersion := by
  have herror : n.health.error.getD "" = "" ↔ n.health.error = none := by
    cases hhealth : n.health.error with
    | none => simp
    | some text =>
      have htext : text ≠ "" := fun hempty => h.error (by rw [hhealth, hempty])
      simp [htext]
  exact Health.isReady_iff.trans (and_congr_left fun _ => herror.symm)

end Node

end Muster
