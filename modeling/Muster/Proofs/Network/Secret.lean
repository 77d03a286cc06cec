import Muster.Cluster.Interface
import Muster.Proofs.Http.Guard
import Muster.Proofs.Node.Relay
import Muster.Worker.Uplink

/-! # Secrets on the way

Clients of nodes and of the management node send the secret they are made with. A request loses the blanks at the
secret's ends, and the guard reads visible ASCII only: whoever has the same secret lets the request pass if and only if
the secret is of such characters and has no blanks at its ends. The settings and the clients take others as well. -/

namespace Muster

/-! ### Blanks -/

namespace Http

/-- A blank or a tab. -/
def isEdgeBlank (c : Char) : Bool := c = ' ' || c = '\t'

variable {s : List Char}

theorem stripBlanks_eq (s : List Char) :
    stripBlanks s = ((s.dropWhile isEdgeBlank).reverse.dropWhile isEdgeBlank).reverse := rfl

theorem length_dropWhile_le (p : Char → Bool) (s : List Char) : (s.dropWhile p).length ≤ s.length :=
  (List.dropWhile_suffix p).length_le

theorem dropWhile_of_strip (h : stripBlanks s = s) :
    s.dropWhile isEdgeBlank = s ∧ s.reverse.dropWhile isEdgeBlank = s.reverse := by
  rw [stripBlanks_eq] at h
  have hback := length_dropWhile_le isEdgeBlank (s.dropWhile isEdgeBlank).reverse
  rw [← List.length_reverse, h, List.length_reverse] at hback
  have hfront : s.dropWhile isEdgeBlank = s := (List.dropWhile_suffix isEdgeBlank).eq_of_length_le hback
  rw [hfront] at h
  exact ⟨hfront, List.reverse_eq_iff.mp h⟩

theorem front_of_dropWhile {p : Char → Bool} {c : Char} (h : (c :: s).dropWhile p = c :: s) : p c = false := by
  cases hc : p c with
  | false => rfl
  | true =>
    have hshorter := length_dropWhile_le p s
    rw [← List.dropWhile_cons_of_pos hc, h, List.length_cons] at hshorter
    omega

/-- Nothing is stripped of a text if and only if it neither begins nor ends with a blank. -/
theorem stripBlanks_eq_self_iff : stripBlanks s = s ↔
    (∀ c rest, s = c :: rest → isEdgeBlank c = false) ∧ ∀ rest c, s = rest ++ [c] → isEdgeBlank c = false := by
  constructor
  · intro h
    obtain ⟨hfront, hback⟩ := dropWhile_of_strip h
    constructor
    · rintro c rest rfl
      exact front_of_dropWhile hfront
    · rintro rest c rfl
      rw [List.reverse_append, List.reverse_singleton, List.singleton_append] at hback
      exact front_of_dropWhile hback
  · rintro ⟨hfront, hback⟩
    have hkept : s.dropWhile isEdgeBlank = s := by
      cases s with
      | nil => rfl
      | cons c rest => exact List.dropWhile_cons_of_neg (by simp [hfront c rest rfl])
    rw [stripBlanks_eq, hkept]
    rcases List.eq_nil_or_concat s with rfl | ⟨rest, c, rfl⟩
    · rfl
    · rw [List.concat_eq_append] at hback ⊢
      rw [List.reverse_append, List.reverse_singleton, List.singleton_append,
        List.dropWhile_cons_of_neg (by simp [hback rest c rfl])]
      simp

/-- A secret that a request can present: of visible ASCII, blanks and tabs, and without those at its ends. -/
structure Usable (secret : String) : Prop where
  readable : ∀ c ∈ secret.toList, IsSecretChar c
  front : ∀ c rest, secret.toList = c :: rest → isEdgeBlank c = false
  back : ∀ rest c, secret.toList = rest ++ [c] → isEdgeBlank c = false

theorem usable_iff {secret : String} :
    Usable secret ↔ stripBlanks secret.toList = secret.toList ∧ ∀ c ∈ secret.toList, IsSecretChar c := by
  rw [stripBlanks_eq_self_iff]
  constructor
  · rintro ⟨hreadable, hfront, hback⟩
    exact ⟨⟨hfront, hback⟩, hreadable⟩
  · rintro ⟨⟨hfront, hback⟩, hreadable⟩
    exact ⟨hreadable, hfront, hback⟩

instance (secret : String) : Decidable (Usable secret) :=
  decidable_of_iff (stripBlanks secret.toList = secret.toList ∧ isReadable secret.toList = true)
    (by rw [usable_iff, isReadable_iff])

end Http

open Http

/-! ### Clients -/

/-- A client made with a secret: the one of a node, or of a worker's uplink. -/
inductive Client.MadeWith (secret : String) : Client → Prop
  | node {url : String} {client : Client} (h : Client.make "node" url secret = .ok client) : MadeWith secret client
  | uplink {w : Settings.Worker} {u : Uplink} (h : Uplink.make w = .ok u) (hsecret : w.secret = secret) :
    MadeWith secret u.client

theorem Client.secret_of_make {what url secret : String} {client : Client}
    (h : Client.make what url secret = .ok client) : client.secret = secret := by
  unfold make at h
  split at h
  · cases h
  · split at h
    · cases h
      rfl
    · cases h

theorem Client.MadeWith.secret {secret : String} {client : Client} (h : client.MadeWith secret) :
    client.secret = secret := by
  cases h with
  | node h => exact secret_of_make h
  | uplink h hsecret =>
    unfold Uplink.make at h
    split at h
    · cases h
    · split at h
      · cases h
      · split at h
        · cases h
        · cases h
          exact (secret_of_make ‹_›).trans hsecret

theorem Outgoing.lookup_secret (o : Outgoing) : o.request.headers.lookup Settings.secretHeader =
    some (String.ofList (stripBlanks o.secret.toList)) := List.lookup_cons_self

theorem Outgoing.presents_iff (o : Outgoing) (path : List Char) :
    { o.request with path := path }.Presents o.secret ↔ Usable o.secret := by
  show o.request.headers.lookup Settings.secretHeader = some o.secret ∧ _ ↔ _
  rw [o.lookup_secret, Option.some.injEq, usable_iff, ← String.toList_inj, String.toList_ofList]

variable {α : Type}

/-- Every request of a client made with a secret, wherever it arrives, presents the secret if and only if the secret is
usable. Then no router with the secret turns it away but for want of a route, and otherwise each denies it. -/
theorem Client.request_presents (secret : String) (client : Client) (call : Call α) (o : Outgoing)
    (hmade : client.MadeWith secret) (ho : client.request call = .ok o) (path : List Char) :
    let r := { o.request with path := path }
    (r.Presents secret ↔ Usable secret) ∧
    (Usable secret → ∀ response, dispatch secret Cluster.routes r = .error response ∨
      dispatch secret Worker.routes r = .error response → response.status = 404 ∨ response.status = 405) ∧
    (¬ Usable secret → dispatch secret Cluster.routes r = .error (denial Cluster.routes r.method path) ∧
      dispatch secret Worker.routes r = .error (denial Worker.routes r.method path)) := by
  intro r
  obtain ⟨u, -, rfl⟩ := request_eq_ok ho
  obtain rfl : client.secret = secret := hmade.secret
  have hpresents : r.Presents client.secret ↔ Usable client.secret := Outgoing.presents_iff _ path
  refine ⟨hpresents, fun husable response hresponse => ?_, fun hnot => ?_⟩
  · have hr := hpresents.mpr husable
    rcases hresponse with h | h
    · exact status_of_presents hr h
    · exact status_of_presents hr h
  · have hr := mt hpresents.mp hnot
    exact ⟨dispatch_denied hr, dispatch_denied hr⟩

/-- A secret with a blank inside passes. -/
theorem Client.request_presents_blank : ∃ (client : Client) (o : Outgoing), client.MadeWith "pa ss" ∧
    client.request WorkerCall.ping = .ok o ∧ o.request.Presents "pa ss" := by
  have hsent : ((Client.make "node" "http://[::1]:81/" "pa ss").toOption.any fun client =>
      (client.request WorkerCall.ping).isOk) = true := by decide +kernel
  cases hmake : Client.make "node" "http://[::1]:81/" "pa ss" with
  | error e =>
    rw [hmake] at hsent
    cases hsent
  | ok client =>
    rw [hmake] at hsent
    cases ho : client.request WorkerCall.ping with
    | error e =>
      simp only [Except.toOption, Option.any_some, ho] at hsent
      cases hsent
    | ok o =>
      have h := request_presents "pa ss" client WorkerCall.ping o (.node hmake) ho o.request.path
      exact ⟨client, o, .node hmake, ho, h.1.mpr (by decide)⟩

/-- A secret that is no ASCII is taken by the settings and by the client of a node, but not by the guard. -/
theorem client_denied :
    ((Settings.Management.ofVariables [("SECRET", "clé")]).map (·.secret)).toOption = some "clé" ∧
    (match Client.make "node" "http://[::1]:81/" "clé" with
      | .error _ => none
      | .ok client => (client.request WorkerCall.ping).toOption.map fun o => Worker.handle "clé" o.request) =
        some (.answered unauthorized) := by
  constructor
  · decide +kernel
  · decide +kernel

end Muster
