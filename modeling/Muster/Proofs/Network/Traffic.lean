import Muster.Proofs.Network.Subject
import Muster.Proofs.Worker.Taken

/-! # What requests leave behind

A request leaves the hosts as they were, and how the engines fail and take their time. At most one engine takes a
command because of it, the one that the request becomes; a call that means a command is heard as no other. -/

namespace Muster.Network

open Worker

variable {a b d net : Network} {c : Command} {o : Outgoing} {i : Nat} {e : Engine}

theorem engines_finish (net : Network) (i : Nat) (c : Command) :
    ((net.begin i c).finish i c).1.engines = net.engines.modify i fun e => ((e.begin c).finish c).1 := by
  rw [finish_eq]
  exact List.modify_modify_eq (·.begin c) (fun e => (e.finish c).1) i net.engines

/-- What a request does to the engines: nothing, or one of them takes the command that it becomes. -/
theorem engines_send (net : Network) (within : Nat) (o : Outgoing) :
    (net.send within o).1.engines = net.engines ∨
      ∃ mount secret path c headOnly, belowMount mount o.request.path = some path ∧
        handle secret { o.request with path := path } = .command c headOnly ∧
        ∃ i f, (∀ e : Engine, e.Took c (f e)) ∧ (net.send within o).1.engines = net.engines.modify i f := by
  cases hservice : net.serviceOf o with
  | none =>
    have harrive : net.arrive o = (net, 0, .settled .unreachable) := by rw [arrive_eq, hservice]
    rw [send_eq, launch_eq, harrive]
    dsimp only
    split
    · exact Or.inl rfl
    · exact Or.inl rfl
  | some service =>
    have harrive : net.arrive o = (net.deliver o).receive o.request service := by rw [arrive_eq, hservice]
    rcases receive_cases service o.request with
      ⟨delay, response, hreceive, -⟩ | ⟨mount, secret, i, path, c, headOnly, -, hmount, hhandle, hreceive⟩
    · rw [send_eq, launch_eq, harrive, hreceive]
      dsimp only
      split
      · exact Or.inl rfl
      · exact Or.inl rfl
    · rw [send_eq, launch_eq, harrive, hreceive]
      refine Or.inr ⟨mount, secret, path, c, headOnly, hmount, hhandle, i, ?_⟩
      dsimp only
      split
      · -- The command is done before the sender gives up.
        exact ⟨fun e => ((e.begin c).finish c).1, fun e => Or.inr rfl, (net.deliver o).engines_finish i c⟩
      · exact ⟨(·.begin c), fun e => Or.inl rfl, rfl⟩

/-- The engines have taken no other command. -/
structure Heard (c : Command) (a b : Network) : Prop where
  length : b.engines.length = a.engines.length
  each : ∀ {i : Nat} {e : Engine}, a.engines[i]? = some e → ∃ e', b.engines[i]? = some e' ∧ e.TookOnly c e'

theorem Heard.refl (c : Command) (a : Network) : a.Heard c a := ⟨rfl, fun he => ⟨_, he, .refl⟩⟩

theorem Heard.trans (h : a.Heard c b) (k : b.Heard c d) : a.Heard c d where
  length := k.length.trans h.length
  each := fun he => by
    obtain ⟨e', he', htook⟩ := h.each he
    obtain ⟨e'', he'', htook'⟩ := k.each he'
    exact ⟨e'', he'', htook.trans htook'⟩

theorem getElem?_modify_cases {l : List Engine} {i j : Nat} {e : Engine} (f : Engine → Engine) (he : l[j]? = some e) :
    (l.modify i f)[j]? = some e ∨ (l.modify i f)[j]? = some (f e) := by
  rw [List.getElem?_modify, he]
  by_cases hij : i = j
  · exact Or.inr (by simp [hij])
  · exact Or.inl (by simp [hij])

theorem heard_send {α : Type} {call : Call α} {client : Client} {o : Outgoing} (hmeans : call.Means c)
    (ho : client.request call = .ok o) (net : Network) (within : Nat) : net.Heard c (net.send within o).1 := by
  rcases net.engines_send within o with
    hsame | ⟨mount, secret, path, d, headOnly, hmount, hhandle, i, f, hf, hafter⟩
  · exact ⟨by rw [hsame], fun he => ⟨_, by rw [hsame, he], .refl⟩⟩
  · obtain rfl : d = c := hmeans ho hmount hhandle
    refine ⟨by rw [hafter, List.length_modify], fun {j e} he => ?_⟩
    rw [hafter]
    rcases getElem?_modify_cases f he with h | h
    · exact ⟨e, h, .refl⟩
    · exact ⟨f e, h, .single (hf e)⟩

/-! ### Hosts and tables -/

/-- The hosts are as they were, and the engines fail and take their time as they did. -/
structure Kept (a b : Network) : Prop where
  connected : b.connected = a.connected
  services : b.services = a.services
  tables : ∀ {i : Nat} {e : Engine}, a.engines[i]? = some e →
    ∃ e', b.engines[i]? = some e' ∧ e'.fail = e.fail ∧ e'.delay = e.delay

theorem Kept.refl (a : Network) : a.Kept a := ⟨rfl, rfl, fun he => ⟨_, he, rfl, rfl⟩⟩

theorem Kept.trans (h : a.Kept b) (k : b.Kept d) : a.Kept d where
  connected := k.connected.trans h.connected
  services := k.services.trans h.services
  tables := fun he => by
    obtain ⟨e', he', hfail, hdelay⟩ := h.tables he
    obtain ⟨e'', he'', hfail', hdelay'⟩ := k.tables he'
    exact ⟨e'', he'', hfail'.trans hfail, hdelay'.trans hdelay⟩

theorem kept_send (net : Network) (within : Nat) (o : Outgoing) : net.Kept (net.send within o).1 := by
  have like := like_send net within o
  refine ⟨like.connected, like.services, fun {j e} he => ?_⟩
  rcases net.engines_send within o with hsame | ⟨-, -, -, c, -, -, -, i, f, hf, hafter⟩
  · exact ⟨e, by rw [hsame, he], rfl, rfl⟩
  · rw [hafter]
    rcases getElem?_modify_cases f he with h | h
    · exact ⟨e, h, rfl, rfl⟩
    · exact ⟨f e, h, (hf e).sameBut.fail, (hf e).sameBut.delay⟩

/-! ### Commands -/

theorem delayOf_eq (he : net.engines[i]? = some e) (c : Command) : net.delayOf i c = e.delayOf c := by
  unfold delayOf
  rw [he]

theorem arrive_of_command {mount secret : String} {path : List Char} {headOnly : Bool}
    (hservice : net.serviceOf o = some (.worker mount secret i))
    (hmount : belowMount mount o.request.path = some path)
    (hhandle : handle secret { o.request with path := path } = .command c headOnly) :
    net.arrive o = ((net.deliver o).begin i c, net.delayOf i c, .command i c headOnly) := by
  have hreceive : (net.deliver o).receive o.request (.worker mount secret i) =
      (net.deliver o).atWorker secret i { o.request with path := path } := by
    unfold receive
    simp only [hmount]
  rw [arrive_eq, hservice]
  dsimp only
  rw [hreceive, atWorker, hhandle]
  rfl

end Muster.Network
