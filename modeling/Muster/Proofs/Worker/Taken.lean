import Mathlib.Logic.Relation
import Muster.Proofs.Worker.Command

/-! # What engines have taken

An engine takes a command: it begins, and may be done. An engine that has taken but one command, however often, has no
other one on its record, and nothing has changed there except under the command's name. -/

namespace Muster.Worker.Engine

variable {c : Command} {e e' e'' : Engine} {name : String} {within : Nat}

/-- The engine has taken a command, and may be done with it. -/
def Took (c : Command) (e e' : Engine) : Prop := e' = e.begin c ∨ e' = ((e.begin c).finish c).1

/-- The engine has taken no other command. -/
def TookOnly (c : Command) : Engine → Engine → Prop := Relation.ReflTransGen (Took c)

/-- Nothing has changed except under a name. -/
structure SameBut (name : String) (e e' : Engine) : Prop where
  version : e'.version = e.version
  tag : e'.tag = e.tag
  fail : e'.fail = e.fail
  delay : e'.delay = e.delay
  loaded : e'.loaded.filter (· ≠ name) = e.loaded.filter (· ≠ name)
  storages : e'.storages.filter (·.name ≠ name) = e.storages.filter (·.name ≠ name)

theorem SameBut.refl (name : String) (e : Engine) : SameBut name e e := ⟨rfl, rfl, rfl, rfl, rfl, rfl⟩

theorem SameBut.trans (h : SameBut name e e') (k : SameBut name e' e'') : SameBut name e e'' where
  version := k.version.trans h.version
  tag := k.tag.trans h.tag
  fail := k.fail.trans h.fail
  delay := k.delay.trans h.delay
  loaded := k.loaded.trans h.loaded
  storages := k.storages.trans h.storages

theorem sameBut_begin (e : Engine) (c : Command) (name : String) : SameBut name e (e.begin c) :=
  ⟨rfl, rfl, rfl, rfl, rfl, rfl⟩

theorem filter_idem {α : Type} (p : α → Bool) (l : List α) : (l.filter p).filter p = l.filter p := by
  rw [List.filter_filter]
  simp only [Bool.and_self]

/-- A command changes nothing except under the name it is about. -/
theorem sameBut_finish (e : Engine) (c : Command) : SameBut c.subject e (e.finish c).1 := by
  unfold finish
  split
  · exact .refl _ e
  · cases c with
    | version | status | storages => exact .refl _ e
    | load n => exact ⟨rfl, rfl, rfl, rfl, by simp [Command.subject], rfl⟩
    | unload n => exact ⟨rfl, rfl, rfl, rfl, filter_idem _ e.loaded, rfl⟩
    | registerStorage r => exact ⟨rfl, rfl, rfl, rfl, rfl, by simp [Command.subject]⟩
    | unregisterStorage n => exact ⟨rfl, rfl, rfl, rfl, rfl, filter_idem _ e.storages⟩

theorem Took.calls (h : Took c e e') : e'.calls = e.calls ++ [c.record] := by
  rcases h with rfl | rfl
  · rfl
  · exact calls_finish (e.begin c) c

theorem Took.sameBut (h : Took c e e') : SameBut c.subject e e' := by
  rcases h with rfl | rfl
  · exact sameBut_begin e c _
  · exact (sameBut_begin e c _).trans (sameBut_finish (e.begin c) c)

theorem TookOnly.calls (h : TookOnly c e e') : ∃ k, e'.calls = e.calls ++ List.replicate k c.record := by
  induction h with
  | refl => exact ⟨0, (List.append_nil _).symm⟩
  | tail _ hstep ih =>
    obtain ⟨k, hk⟩ := ih
    exact ⟨k + 1, by rw [hstep.calls, hk, List.append_assoc, List.replicate_succ']⟩

theorem TookOnly.sameBut (h : TookOnly c e e') : SameBut c.subject e e' := by
  induction h with
  | refl => exact .refl _ e
  | tail _ hstep ih => exact ih.trans hstep.sameBut

/-! ### Storages -/

/-- The engine has no storage of a name. -/
def Lacks (e : Engine) (name : String) : Prop := ∀ r ∈ e.storages, r.name ≠ name

theorem lacks_finish (h : forMethod e.fail (.unregisterStorage name) = none) :
    (e.finish (.unregisterStorage name)).1.Lacks name := by
  unfold finish
  rw [h]
  exact fun r hr => by simpa using (List.mem_filter.mp hr).2

theorem Took.lacks (h : Took (.unregisterStorage name) e e') (hlacks : e.Lacks name) : e'.Lacks name := by
  rcases h with rfl | rfl
  · exact hlacks
  · cases hfail : forMethod (e.begin (.unregisterStorage name)).fail (.unregisterStorage name) with
    | none => exact lacks_finish hfail
    | some chain =>
      unfold finish
      rw [hfail]
      exact hlacks

theorem TookOnly.lacks (h : TookOnly (.unregisterStorage name) e e') (hlacks : e.Lacks name) : e'.Lacks name := by
  induction h with
  | refl => exact hlacks
  | tail _ hstep ih => exact hstep.lacks ih

/-! ### Willing engines -/

/-- The engine does not fail a command, and is done with it within a time. -/
structure Willing (e : Engine) (c : Command) (within : Nat) : Prop where
  succeeds : forMethod e.fail c = none
  quick : e.delayOf c < within

theorem Willing.kept (h : e.Willing c within) (hfail : e'.fail = e.fail) (hdelay : e'.delay = e.delay) :
    e'.Willing c within := by
  refine ⟨hfail ▸ h.succeeds, ?_⟩
  unfold delayOf
  rw [hdelay]
  exact h.quick

end Muster.Worker.Engine
