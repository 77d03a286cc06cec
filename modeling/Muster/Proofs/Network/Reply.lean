import Muster.Network.Client
import Muster.Proofs.Worker.Command

/-! # Replies

What a request comes to if its sender waits for the answer (`Network.reply`), and in which networks requests come to
the same. A request that asks leaves a network as it was to all others that ask, and one that changes something leaves
it as it was to all others that do: so the members of a cluster get the same replies whoever is called first. -/

namespace Muster

open Worker

namespace Network

variable {net : Network} {o : Outgoing} {within : Nat}

/-- A service takes a request that has arrived: gives how long the answer takes. -/
def receive (net : Network) (r : Http.Request) : Service → Network × Nat × Flight
  | .management secret => (net, 0, .answered (refusal secret r))
  | .stub response delay => (net, delay, .answered response)
  | .worker mount secret engine =>
    match belowMount mount r.path with
    | none => (net, 0, .answered (.empty 404))
    | some path => net.atWorker secret engine { r with path := path }

/-- What is taken is answered at once or after a delay, or it becomes a command to an engine. A worker gives no other
answers than refusals itself. -/
theorem receive_cases (service : Service) (r : Http.Request) :
    (∃ delay response, (∀ net : Network, net.receive r service = (net, delay, .answered response)) ∧
        ∀ mount secret engine, service = .worker mount secret engine → response.isSuccess = false) ∨
      ∃ mount secret engine path c headOnly, service = .worker mount secret engine ∧
        belowMount mount r.path = some path ∧ handle secret { r with path := path } = .command c headOnly ∧
        ∀ net : Network,
          net.receive r service = (net.begin engine c, net.delayOf engine c, .command engine c headOnly) := by
  cases service with
  | management secret => exact Or.inl ⟨0, refusal secret r, fun _ => rfl, fun _ _ _ h => by cases h⟩
  | stub response delay => exact Or.inl ⟨delay, response, fun _ => rfl, fun _ _ _ h => by cases h⟩
  | worker mount secret engine =>
    have hworker : ∀ net : Network, net.receive r (.worker mount secret engine) =
        match belowMount mount r.path with
        | none => (net, 0, .answered (.empty 404))
        | some path => net.atWorker secret engine { r with path := path } := fun _ => rfl
    cases hpath : belowMount mount r.path with
    | none => exact Or.inl ⟨0, .empty 404, fun net => by rw [hworker, hpath], fun _ _ _ _ => rfl⟩
    | some path =>
      cases hhandle : handle secret { r with path := path } with
      | answered response =>
        refine Or.inl ⟨0, response, fun net => ?_, fun _ _ _ _ => handle_refused hhandle⟩
        rw [hworker, hpath]
        show net.atWorker secret engine { r with path := path } = _
        rw [atWorker, hhandle]
      | command c headOnly =>
        refine Or.inr ⟨mount, secret, engine, path, c, headOnly, rfl, hpath, hhandle, fun net => ?_⟩
        rw [hworker, hpath]
        show net.atWorker secret engine { r with path := path } = _
        rw [atWorker, hhandle]

/-- The service that a request goes to. -/
def serviceOf (net : Network) (o : Outgoing) : Option Service :=
  if net.connected then net.services.lookup o.url.server else none

/-- The network in which a request has arrived and waits to be taken. -/
def deliver (net : Network) (o : Outgoing) : Network :=
  { net with arrived := net.arrived ++ [⟨o.url.server, o.request⟩] }

theorem arrive_eq (net : Network) (o : Outgoing) : net.arrive o =
    match net.serviceOf o with
    | none => (net, 0, .settled .unreachable)
    | some service => (net.deliver o).receive o.request service := by
  unfold arrive serviceOf
  cases if net.connected then net.services.lookup o.url.server else none with
  | none => rfl
  | some service => cases service <;> rfl

/-- How long the answer to a request takes, and what the request comes to for a sender who waits for it. -/
def reply (net : Network) (o : Outgoing) : Nat × Exchange :=
  ((net.arrive o).2.1, ((net.arrive o).1.land (net.arrive o).2.2).2)

theorem launch_eq (net : Network) (within : Nat) (o : Outgoing) : net.launch within o =
    if (net.arrive o).2.1 < within then net.arrive o else ((net.arrive o).1, within, .settled .timedOut) := rfl

theorem send_eq (net : Network) (within : Nat) (o : Outgoing) : net.send within o =
    (((net.launch within o).1.land (net.launch within o).2.2).1, (net.launch within o).2.1,
      ((net.launch within o).1.land (net.launch within o).2.2).2) := rfl

/-- A request that is answered before its sender gives up acts as if the sender waited for it. -/
theorem send_of_lt (h : (net.reply o).1 < within) :
    net.send within o = (((net.arrive o).1.land (net.arrive o).2.2).1, net.reply o) := by
  rw [send_eq, launch_eq, if_pos (show (net.arrive o).2.1 < within from h)]
  rfl

/-- A request whose sender gives up does no more than arrive. -/
theorem send_of_not_lt (h : ¬ (net.reply o).1 < within) :
    net.send within o = ((net.arrive o).1, within, .timedOut) := by
  rw [send_eq, launch_eq, if_neg (show ¬ (net.arrive o).2.1 < within from h)]
  rfl

theorem send_reply (net : Network) (within : Nat) (o : Outgoing) :
    (net.send within o).2 = if (net.reply o).1 < within then net.reply o else (within, .timedOut) := by
  by_cases h : (net.reply o).1 < within
  · rw [send_of_lt h, if_pos h]
  · rw [send_of_not_lt h, if_neg h]

/-! ### Networks that are alike -/

/-- Two networks have the same hosts, whose engines answer commands of a sort alike and take the same time. -/
structure Like (sort : Bool) (a b : Network) : Prop where
  connected : a.connected = b.connected
  services : a.services = b.services
  delays : ∀ i c, a.delayOf i c = b.delayOf i c
  answers : ∀ i c, c.asks = sort → (a.finish i c).2 = (b.finish i c).2

variable {sort : Bool} {a b c : Network}

theorem answer_finish (net : Network) (i : Nat) (c : Command) : (net.finish i c).2 =
    match net.engines[i]? with
    | some e => (e.finish c).2
    | none => .done := by
  unfold finish
  cases net.engines[i]? <;> rfl

theorem like_arrived (sort : Bool) (net : Network) (l : List Arrived) : Like sort { net with arrived := l } net :=
  ⟨rfl, rfl, fun _ _ => rfl, fun i c _ => by rw [answer_finish, answer_finish]⟩

theorem Like.refl (sort : Bool) (a : Network) : Like sort a a := ⟨rfl, rfl, fun _ _ => rfl, fun _ _ _ => rfl⟩

theorem Like.symm (h : Like sort a b) : Like sort b a :=
  ⟨h.connected.symm, h.services.symm, fun i d => (h.delays i d).symm, fun i d hd => (h.answers i d hd).symm⟩

theorem Like.trans (h : Like sort a b) (k : Like sort b c) : Like sort a c :=
  ⟨h.connected.trans k.connected, h.services.trans k.services, fun i d => (h.delays i d).trans (k.delays i d),
    fun i d hd => (h.answers i d hd).trans (k.answers i d hd)⟩

/-- An engine that answers as before may take another one's place. -/
theorem like_of_engines (sort : Bool) (net : Network) (i : Nat) (f : Engine → Engine)
    (delays : ∀ e c, (f e).delayOf c = e.delayOf c)
    (answers : ∀ e c, c.asks = sort → ((f e).finish c).2 = (e.finish c).2) :
    Like sort { net with engines := net.engines.modify i f } net := by
  have engines : ∀ j, (net.engines.modify i f)[j]? = (net.engines[j]?).map (if i = j then f else id) := fun j => by
    rw [List.getElem?_modify]
    by_cases hij : i = j
    · simp [hij]
    · simp [hij]
  refine ⟨rfl, rfl, fun j c => ?_, fun j c hc => ?_⟩
  · unfold delayOf
    rw [show ({ net with engines := net.engines.modify i f } : Network).engines[j]? = _ from engines j]
    cases net.engines[j]? with
    | none => rfl
    | some e =>
      show ((if i = j then f else id) e).delayOf c = e.delayOf c
      split
      · exact delays e c
      · rfl
  · rw [answer_finish, answer_finish]
    rw [show ({ net with engines := net.engines.modify i f } : Network).engines[j]? = _ from engines j]
    cases net.engines[j]? with
    | none => rfl
    | some e =>
      show (((if i = j then f else id) e).finish c).2 = (e.finish c).2
      split
      · exact answers e c hc
      · rfl

theorem like_begin (sort : Bool) (net : Network) (i : Nat) (c : Command) : Like sort (net.begin i c) net :=
  like_of_engines sort net i _ (fun e d => Engine.delayOf_begin e d c) fun e d _ => Engine.answer_begin e d c

theorem finish_eq (net : Network) (i : Nat) (c : Command) :
    (net.finish i c).1 = { net with engines := net.engines.modify i fun e => (e.finish c).1 } := by
  unfold finish
  cases h : net.engines[i]? with
  | none => rw [List.modify_eq_self (List.getElem?_eq_none_iff.mp h)]
  | some e =>
    refine congrArg (fun l => ({ net with engines := l } : Network)) (List.ext_getElem? fun j => ?_)
    rw [List.getElem?_set, List.getElem?_modify]
    by_cases hij : i = j
    · subst hij
      have hlt := (List.getElem?_eq_some_iff.mp h).1
      rw [if_pos rfl, if_pos hlt, h]
      simp
    · simp [hij]

/-- A command leaves the network as it was to commands of its sort. -/
theorem like_finish {c : Command} (h : c.asks = sort) (net : Network) (i : Nat) : Like sort (net.finish i c).1 net := by
  rw [finish_eq]
  exact like_of_engines sort net i _ (fun e d => Engine.delayOf_finish e d c)
    fun e d hd => Engine.answer_finish e (hd.trans h.symm)

/-- A request comes to the same in networks that are alike. -/
theorem Like.reply (h : Like sort a b) (ho : asks o.method = sort) : a.reply o = b.reply o := by
  have hservice : a.serviceOf o = b.serviceOf o := by rw [serviceOf, serviceOf, h.connected, h.services]
  have delivered : Like sort (a.deliver o) (b.deliver o) :=
    ((like_arrived sort a _).trans h).trans (like_arrived sort b _).symm
  unfold Network.reply
  rw [arrive_eq, arrive_eq, hservice]
  cases b.serviceOf o with
  | none => rfl
  | some service =>
    show (((a.deliver o).receive o.request service).2.1, (Network.land ((a.deliver o).receive o.request service).1
        ((a.deliver o).receive o.request service).2.2).2) =
      (((b.deliver o).receive o.request service).2.1, (Network.land ((b.deliver o).receive o.request service).1
        ((b.deliver o).receive o.request service).2.2).2)
    rcases receive_cases service o.request with
      ⟨delay, response, hreceive, -⟩ | ⟨mount, secret, engine, path, c, headOnly, -, -, hhandle, hreceive⟩
    · rw [hreceive, hreceive]
      rfl
    · have hc : c.asks = sort := (asks_of_handle hhandle).trans ho
      have begun := ((like_begin sort (a.deliver o) engine c).trans delivered).trans
        (like_begin sort (b.deliver o) engine c).symm
      rw [hreceive, hreceive]
      exact Prod.ext (delivered.delays engine c)
        (congrArg (fun x => Exchange.answered (Worker.delivered c headOnly x).onWire) (begun.answers engine c hc))

/-- A request leaves the network as it was to requests of its sort. -/
theorem like_send (net : Network) (within : Nat) (o : Outgoing) : Like (asks o.method) (net.send within o).1 net := by
  have arrived : Like (asks o.method) (net.deliver o) net := like_arrived _ net _
  -- Waiting for an engine keeps what the arrival has kept.
  have taken : Like (asks o.method) (net.arrive o).1 net ∧
      Like (asks o.method) ((net.arrive o).1.land (net.arrive o).2.2).1 net := by
    rw [arrive_eq]
    cases net.serviceOf o with
    | none => exact ⟨.refl _ net, .refl _ net⟩
    | some service =>
      show Like _ ((net.deliver o).receive o.request service).1 net ∧ Like _ (Network.land
        ((net.deliver o).receive o.request service).1 ((net.deliver o).receive o.request service).2.2).1 net
      rcases receive_cases service o.request with
        ⟨delay, response, hreceive, -⟩ | ⟨mount, secret, engine, path, c, headOnly, -, -, hhandle, hreceive⟩
      · rw [hreceive]
        exact ⟨arrived, arrived⟩
      · rw [hreceive]
        have begun := (like_begin (asks o.method) (net.deliver o) engine c).trans arrived
        exact ⟨begun, (like_finish (asks_of_handle hhandle) _ engine).trans begun⟩
  by_cases h : (net.reply o).1 < within
  · rw [send_of_lt h]
    exact taken.2
  · rw [send_of_not_lt h]
    exact taken.1

end Network

end Muster
