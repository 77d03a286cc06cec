import Mathlib.Data.List.Forall2
import Mathlib.Data.List.Nodup
import Muster.Proofs.Json.RoundTrip

/-! # Documents that spell something out

A value spells out what a decoder reads of it (`Spells`). A record is spelled out by an object whose fields spell out
the fields of the record, in the record's order; so the law of a record is put together from those of its fields. -/

namespace Muster.Json

variable {α β : Type} {read : Decoder α} {v : Value} {a : α} {levels : Nat}

/-- A value is read as `a`, by whoever has room for `levels` levels. -/
structure Spells (v : Value) (read : Decoder α) (levels : Nat) (a : α) : Prop where
  whole : v.isWhole = true
  draft : ∀ room, read (room + levels) v.draft = .ok a

namespace Spells

theorem mono {more : Nat} (h : Spells v read levels a) (hle : levels ≤ more) : Spells v read more a where
  whole := h.whole
  draft := fun room => by
    obtain ⟨k, rfl⟩ := Nat.exists_eq_add_of_le hle
    rw [Nat.add_comm levels k, ← Nat.add_assoc]
    exact h.draft (room + k)

/-- What a value spells out is read from its text. -/
theorem decode (h : Spells v read levels a) (hroom : levels ≤ maxDepth) : Json.decode read v.text = .ok a := by
  rw [decode_text read h.whole]
  exact (h.mono hroom).draft 0 |>.symm ▸ rfl

theorem decodeFront (h : Spells v read levels a) (hroom : levels ≤ maxDepth) :
    Json.decodeFront read v.text = .ok a := by
  unfold Json.decodeFront Value.text
  rw [String.toList_ofList, readDraft_print h.whole]
  exact (h.mono hroom).draft 0 |>.symm ▸ rfl

theorem text (s : String) : Spells (.string s) readText 0 s := ⟨rfl, fun _ => rfl⟩

theorem bool (b : Bool) : Spells (.bool b) readBool 0 b := ⟨rfl, fun _ => rfl⟩

/-- A list is spelled out item by item. -/
theorem list {encode : α → Value} {l : List α} (h : ∀ a ∈ l, Spells (encode a) read levels a) :
    Spells (.array (l.map encode)) (readList read) (levels + 1) l where
  whole := by
    show Value.areWhole (l.map encode) = true
    induction l with
    | nil => rfl
    | cons a l ih =>
      have hl := ih fun b hb => h b (List.mem_cons_of_mem a hb)
      exact Bool.and_eq_true_iff.mpr ⟨(h a List.mem_cons_self).whole, hl⟩
  draft := fun room => by
    show (Value.draftItems (l.map encode)).mapM (read (room + levels)) = .ok l
    induction l with
    | nil => rfl
    | cons a l ih =>
      show List.mapM (read (room + levels)) ((encode a).draft :: Value.draftItems (l.map encode)) = _
      rw [List.mapM_cons, (h a List.mem_cons_self).draft room, ih fun b hb => h b (List.mem_cons_of_mem a hb)]
      rfl

theorem texts (l : List String) : Spells (.ofStrings l) (readList readText) 1 l := list fun s _ => text s

end Spells

/-! ### Records -/

theorem lookup_of_mem {κ γ : Type} [BEq κ] [LawfulBEq κ] {l : List (κ × γ)} (h : (l.map (·.1)).Nodup) {x : κ × γ}
    (hx : x ∈ l) : l.lookup x.1 = some x.2 := by
  induction l with
  | nil => cases hx
  | cons y l ih =>
    obtain ⟨hfresh, hnodup⟩ := List.nodup_cons.mp h
    rcases List.mem_cons.mp hx with rfl | hx
    · exact List.lookup_cons_self
    · have hne : (x.1 == y.1) = false := beq_false_of_ne fun heq => hfresh (List.mem_map.mpr ⟨x, hx, heq⟩)
      rw [List.lookup_cons, hne]
      exact ih hnodup hx

theorem Value.draftFields_eq (doc : List (String × Value)) :
    draftFields doc = doc.map fun f => (some f.1, f.2.draft) := by
  induction doc with
  | nil => rfl
  | cons f doc ih => exact congrArg (_ :: ·) ih

theorem Value.haveWhole_snoc {doc : List (String × Value)} (h : haveWhole doc = true) (hv : v.isWhole = true)
    (name : String) : haveWhole (doc ++ [(name, v)]) = true := by
  induction doc with
  | nil => exact Bool.and_eq_true_iff.mpr ⟨hv, rfl⟩
  | cons f doc ih =>
    obtain ⟨hf, hdoc⟩ := Bool.and_eq_true_iff.mp h
    exact Bool.and_eq_true_iff.mpr ⟨hf, ih hdoc⟩

namespace Fields

variable {name : String} {doc : List (String × Value)}

/-- The fields of a document spell out those of a record, which is put together to `a`. -/
structure Spelled (fs : Fields α) (levels : Nat) (doc : List (String × Value)) (a : α) : Prop where
  whole : Value.haveWhole doc = true
  names : fs.checks.map (·.1) = doc.map (·.1)
  checks : ∀ room, ∀ f ∈ doc, ∃ check, (f.1, check) ∈ fs.checks ∧ check (room + levels) f.2.draft = .ok ()
  build : ∀ room find, (∀ f ∈ doc, find f.1 = some f.2.draft) → fs.build (room + levels) find = .ok a

namespace Spelled

theorem pure (levels : Nat) (a : α) : (Fields.pure a).Spelled levels [] a where
  whole := rfl
  names := rfl
  checks := fun _ _ hf => by cases hf
  build := fun _ _ _ => rfl

section
variable {fs : Fields (α → β)} {f : α → β} {k : Nat} (h : fs.Spelled levels doc f) (name : String)
  (hv : Spells v read k a) (hk : k ≤ levels)
include h hv hk

/-- One more field is spelled out behind the others. -/
theorem field (default? : Option α) : (fs.field name read default?).Spelled levels (doc ++ [(name, v)]) (f a) where
  whole := Value.haveWhole_snoc h.whole hv.whole name
  names := by
    unfold Fields.field
    rw [List.map_append, List.map_append, h.names]
    rfl
  checks := fun room g hg => by
    rcases List.mem_append.mp hg with hg | hg
    · obtain ⟨check, hmem, hpass⟩ := h.checks room g hg
      exact ⟨check, List.mem_append_left _ hmem, hpass⟩
    · obtain rfl := List.mem_singleton.mp hg
      refine ⟨_, List.mem_append_right _ List.mem_cons_self, ?_⟩
      show (read (room + levels) v.draft).map _ = _
      rw [(hv.mono hk).draft room]
      rfl
  build := fun room find hfind => by
    have hothers := h.build room find fun g hg => hfind g (List.mem_append_left _ hg)
    have hhere : find name = some v.draft := hfind (name, v) (List.mem_append_right _ List.mem_cons_self)
    unfold Fields.field
    simp only [hothers, hhere, (hv.mono hk).draft room]
    rfl

theorem required : (fs.required name read).Spelled levels (doc ++ [(name, v)]) (f a) := h.field name hv hk none

theorem optional (default : α) : (fs.optional name read default).Spelled levels (doc ++ [(name, v)]) (f a) :=
  h.field name hv hk (some default)

end

end Spelled

/-- Fields of different names, each of which passes its check, are in order. -/
theorem checkObject_eq_ok {checks : List (String × Decoder Unit)} {room : Nat} {seen : List String}
    (hchecks : ∀ f ∈ doc, ∃ check, checks.lookup f.1 = some check ∧ check room f.2.draft = .ok ())
    (hnodup : (doc.map (·.1)).Nodup) (hseen : ∀ f ∈ doc, f.1 ∉ seen) :
    checkObject checks room seen (doc.map fun f => (some f.1, f.2.draft)) = .ok () := by
  induction doc generalizing seen with
  | nil => rfl
  | cons f doc ih =>
    obtain ⟨check, hlookup, hcheck⟩ := hchecks f List.mem_cons_self
    obtain ⟨hfresh, hnodup⟩ := List.nodup_cons.mp hnodup
    have hnew : seen.contains f.1 = false := by simpa using hseen f List.mem_cons_self
    rw [List.map_cons, checkObject, hlookup]
    dsimp only
    rw [hnew, hcheck]
    refine ih (fun g hg => hchecks g (List.mem_cons_of_mem f hg)) hnodup fun g hg hmem => ?_
    rcases List.mem_cons.mp hmem with heq | hmem
    · exact hfresh (List.mem_map.mpr ⟨g, hg, heq⟩)
    · exact hseen g (List.mem_cons_of_mem f hg) hmem

/-- A record is read from the object that spells its fields out. -/
theorem Spelled.object {fs : Fields α} (h : fs.Spelled levels doc a) (hnodup : (fs.checks.map (·.1)).Nodup) :
    Spells (.object doc) fs.read (levels + 1) a where
  whole := h.whole
  draft := fun room => by
    have hdoc : (doc.map (·.1)).Nodup := h.names ▸ hnodup
    have hkeys : ((doc.map fun f => (some f.1, f.2.draft)).map (·.1)).Nodup := by
      have hsome := hdoc.map (Option.some_injective String)
      rw [List.map_map] at hsome ⊢
      exact hsome
    have hpass : ∀ f ∈ doc, ∃ check, fs.checks.lookup f.1 = some check ∧ check (room + levels) f.2.draft = .ok () := by
      intro f hf
      obtain ⟨check, hmem, hpass⟩ := h.checks room f hf
      exact ⟨check, lookup_of_mem hnodup hmem, hpass⟩
    have hfound : ∀ f ∈ doc, (doc.map fun f => (some f.1, f.2.draft)).lookup (some f.1) = some f.2.draft := fun f hf =>
      lookup_of_mem hkeys (List.mem_map.mpr ⟨f, hf, rfl⟩)
    show fs.read (room + levels + 1) (.object (Value.draftFields doc)) = _
    rw [Value.draftFields_eq]
    show (checkObject fs.checks (room + levels) [] _ >>= fun _ => _) = _
    rw [checkObject_eq_ok hpass hdoc fun _ _ => List.not_mem_nil]
    exact h.build room _ hfound

end Fields

end Muster.Json
