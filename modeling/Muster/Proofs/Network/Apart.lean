import Muster.Proofs.Network.Traffic

/-! # Hosts apart

What becomes of a request is settled by its host, and by the engine that the host runs. So two networks that agree on
some hosts (`Network.AgreeOn`) give the same answers there, and agree on them after any request to any host. -/

namespace Muster

/-- What an engine that takes a command is afterwards: it is done with the command if its sender waits for that. -/
def Worker.Engine.taking (c : Command) (waited : Bool) (e : Engine) : Engine :=
  if waited then ((e.begin c).finish c).1 else e.begin c

namespace Network

open Worker

variable {P : String → Prop} {a b net : Network} {o : Outgoing} {within i : Nat}

/-- An engine is run by no host but such as `P` tells. -/
def Spared (P : String → Prop) (net : Network) (i : Nat) : Prop :=
  ∀ server mount secret, net.services.lookup server = some (.worker mount secret i) → P server

/-- Two networks agree on the hosts that `P` tells: these are the same in both, and so are all engines but those that
other hosts run. No engine of these hosts is run by another host. -/
structure AgreeOn (P : String → Prop) (a b : Network) : Prop where
  connected : a.connected = b.connected
  services : ∀ server, P server → a.services.lookup server = b.services.lookup server
  engines : ∀ i, a.Spared P i → b.Spared P i → a.engines[i]? = b.engines[i]?
  spared : ∀ server mount secret i, P server → a.services.lookup server = some (.worker mount secret i) →
    a.Spared P i ∧ b.Spared P i

theorem AgreeOn.refl_of_all (h : ∀ server, P server) (net : Network) : AgreeOn P net net :=
  ⟨rfl, fun _ _ => rfl, fun _ _ _ => rfl,
    fun _ _ _ _ _ _ => ⟨fun server _ _ _ => h server, fun server _ _ _ => h server⟩⟩

/-- Networks go on to agree where their hosts stay and the same becomes of the engines. -/
theorem AgreeOn.of_kept {a' b' : Network} (h : AgreeOn P a b) (ha : a.Kept a') (hb : b.Kept b')
    (hengines : ∀ i, a.Spared P i → b.Spared P i → a'.engines[i]? = b'.engines[i]?) : AgreeOn P a' b' := by
  have spareda (i : Nat) : a'.Spared P i ↔ a.Spared P i := by
    unfold Spared
    rw [ha.services]
  have sparedb (i : Nat) : b'.Spared P i ↔ b.Spared P i := by
    unfold Spared
    rw [hb.services]
  refine ⟨?_, fun server hP => ?_, fun i hia hib => ?_, fun server mount secret i hP hlookup => ?_⟩
  · rw [ha.connected, hb.connected, h.connected]
  · rw [ha.services, hb.services]
    exact h.services server hP
  · exact hengines i ((spareda i).mp hia) ((sparedb i).mp hib)
  · rw [ha.services] at hlookup
    obtain ⟨hia, hib⟩ := h.spared server mount secret i hP hlookup
    exact ⟨(spareda i).mpr hia, (sparedb i).mpr hib⟩

/-! ### Requests -/

/-- What comes of a request is settled by the service that it goes to: no engine has a part in it, or the one that the
worker there runs takes a command. -/
theorem send_cases (service? : Option Service) (within : Nat) (o : Outgoing) :
    (∃ reply, ∀ net : Network, net.serviceOf o = service? →
        (net.send within o).1.engines = net.engines ∧ (net.send within o).2 = reply) ∨
      ∃ mount secret i path c headOnly, service? = some (.worker mount secret i) ∧
        belowMount mount o.request.path = some path ∧
        handle secret { o.request with path := path } = .command c headOnly ∧
        ∀ net : Network, net.serviceOf o = service? →
          (net.send within o).1.engines = net.engines.modify i (Engine.taking c (net.delayOf i c < within)) ∧
          (net.send within o).2 = if net.delayOf i c < within then
            (net.delayOf i c, .answered (delivered c headOnly (net.finish i c).2).onWire) else (within, .timedOut) := by
  cases service? with
  | none =>
    refine Or.inl ⟨if 0 < within then (0, .unreachable) else (within, .timedOut), fun net hservice => ?_⟩
    have harrive : net.arrive o = (net, 0, .settled .unreachable) := by rw [arrive_eq, hservice]
    rw [send_eq, launch_eq, harrive]
    dsimp only
    split
    · exact ⟨rfl, rfl⟩
    · exact ⟨rfl, rfl⟩
  | some service =>
    have harrive (net : Network) (hservice : net.serviceOf o = some service) :
        net.arrive o = (net.deliver o).receive o.request service := by rw [arrive_eq, hservice]
    rcases receive_cases service o.request with
      ⟨delay, response, hreceive, -⟩ | ⟨mount, secret, i, path, c, headOnly, rfl, hmount, hhandle, hreceive⟩
    · refine Or.inl ⟨if delay < within then (delay, .answered response.onWire) else (within, .timedOut),
        fun net hservice => ?_⟩
      rw [send_eq, launch_eq, harrive net hservice, hreceive]
      dsimp only
      split
      · exact ⟨rfl, rfl⟩
      · exact ⟨rfl, rfl⟩
    · refine Or.inr ⟨mount, secret, i, path, c, headOnly, rfl, hmount, hhandle, fun net hservice => ?_⟩
      have hdelay : (net.deliver o).delayOf i c = net.delayOf i c := rfl
      have hanswer : (((net.deliver o).begin i c).finish i c).2 = (net.finish i c).2 :=
        (((like_begin c.asks (net.deliver o) i c).trans (like_arrived c.asks net _)).answers i c rfl)
      rw [send_eq, launch_eq, harrive net hservice, hreceive, hdelay]
      dsimp only
      by_cases hlt : net.delayOf i c < within
      · rw [if_pos hlt, if_pos hlt, decide_eq_true hlt, ← hanswer]
        exact ⟨(net.deliver o).engines_finish i c, rfl⟩
      · rw [if_neg hlt, if_neg hlt, decide_eq_false hlt]
        exact ⟨rfl, rfl⟩

theorem AgreeOn.serviceOf (h : AgreeOn P a b) (hP : P o.url.server) : a.serviceOf o = b.serviceOf o := by
  rw [Network.serviceOf, Network.serviceOf, h.connected, h.services _ hP]

theorem lookup_of_serviceOf {service : Service} (h : net.serviceOf o = some service) :
    net.services.lookup o.url.server = some service := by
  unfold serviceOf at h
  split at h
  · exact h
  · cases h

/-- A request to another host leaves the engines of these as they were. -/
theorem engines_send_of_spared (hP : ¬ P o.url.server) (hi : net.Spared P i) (within : Nat) :
    (net.send within o).1.engines[i]? = net.engines[i]? := by
  rcases send_cases (net.serviceOf o) within o with
    ⟨reply, hsend⟩ | ⟨mount, secret, k, path, c, headOnly, hservice, -, -, hsend⟩
  · rw [(hsend net rfl).1]
  · have hne : k ≠ i := by
      rintro rfl
      exact hP (hi _ _ _ (lookup_of_serviceOf hservice))
    rw [(hsend net rfl).1, List.getElem?_modify_ne _ _ hne]

theorem delayOf_congr (h : a.engines[i]? = b.engines[i]?) (c : Command) : a.delayOf i c = b.delayOf i c := by
  unfold delayOf
  rw [h]

theorem answer_congr (h : a.engines[i]? = b.engines[i]?) (c : Command) : (a.finish i c).2 = (b.finish i c).2 := by
  rw [answer_finish, answer_finish, h]

/-- After a request to any host networks agree where they did, and a request to a host on which they agree comes to the
same in both. -/
theorem AgreeOn.send (h : AgreeOn P a b) (within : Nat) (o : Outgoing) :
    AgreeOn P (a.send within o).1 (b.send within o).1 ∧
      (P o.url.server → (a.send within o).2 = (b.send within o).2) := by
  by_cases hP : P o.url.server
  · have hservice := h.serviceOf hP
    rcases send_cases (b.serviceOf o) within o with
      ⟨reply, hsend⟩ | ⟨mount, secret, i, path, c, headOnly, hworker, -, -, hsend⟩
    · obtain ⟨hea, hra⟩ := hsend a hservice
      obtain ⟨heb, hrb⟩ := hsend b rfl
      refine ⟨h.of_kept (kept_send a within o) (kept_send b within o) fun k hka hkb => ?_, fun _ => hra.trans hrb.symm⟩
      rw [hea, heb]
      exact h.engines k hka hkb
    · obtain ⟨hea, hra⟩ := hsend a hservice
      obtain ⟨heb, hrb⟩ := hsend b rfl
      obtain ⟨hia, hib⟩ := h.spared _ mount secret i hP (lookup_of_serviceOf (hservice.trans hworker))
      have hengine := h.engines i hia hib
      have hdelay := delayOf_congr hengine c
      refine ⟨h.of_kept (kept_send a within o) (kept_send b within o) fun k hka hkb => ?_, fun _ => ?_⟩
      · rw [hea, heb, hdelay, List.getElem?_modify, List.getElem?_modify, h.engines k hka hkb]
      · rw [hra, hrb, hdelay, answer_congr hengine c]
  · refine ⟨h.of_kept (kept_send a within o) (kept_send b within o) fun k hka hkb => ?_, fun hP' => absurd hP' hP⟩
    rw [engines_send_of_spared hP hka, engines_send_of_spared hP hkb]
    exact h.engines k hka hkb

end Network

end Muster
