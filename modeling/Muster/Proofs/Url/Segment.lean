import Mathlib.Data.List.Induction
import Muster.Proofs.Http.LastPiece
import Muster.Proofs.Text.Case
import Muster.Proofs.Text.Percent

/-! # Segments appended to an address

A segment in which nothing is ignored stands in a path as one piece, which is decoded to the segment again. Only the
segments of one and of two points are passed over, and none is taken for a step to another place. -/

namespace Muster.Url

open Text

variable {special : Bool} {c d : Char} {s e r : List Char}

/-! ### Points -/

theorem percentDecode_point (h : s.map Char.toLower = ['.'] ∨ s.map Char.toLower = ['%', '2', 'e']) (r : List Char) :
    percentDecode (s ++ r) = 0x2E :: percentDecode r := by
  rcases h with h | h
  · obtain ⟨a, hs, ha⟩ := List.map_eq_singleton_iff.mp h
    obtain rfl := eq_of_toLower ha (by decide)
    subst hs
    exact percentDecode_cons (by decide) r
  · obtain ⟨a, s, rfl, ha, h⟩ := List.map_eq_cons_iff.mp h
    obtain ⟨b, s, rfl, hb, h⟩ := List.map_eq_cons_iff.mp h
    obtain ⟨x, hs, hx⟩ := List.map_eq_singleton_iff.mp h
    subst hs
    obtain rfl := eq_of_toLower ha (by decide)
    obtain rfl := eq_of_toLower hb (by decide)
    rcases eq_of_toLower_e hx with rfl | rfl
    · rfl
    · rfl

theorem percentDecode_of_isHere (h : isHere e = true) : percentDecode e = [0x2E] := by
  unfold isHere at h
  have hpoint := percentDecode_point (s := e) (by simpa using h) []
  rwa [List.append_nil] at hpoint

theorem percentDecode_of_isAbove (h : isAbove e = true) : percentDecode e = [0x2E, 0x2E] := by
  -- Each of the four spellings is one of a point behind one of a point.
  have hsplit : ∃ p q : List Char, e.map Char.toLower = p ++ q ∧ (p = ['.'] ∨ p = ['%', '2', 'e']) ∧
      (q = ['.'] ∨ q = ['%', '2', 'e']) := by
    unfold isAbove at h
    simp only [Bool.or_eq_true, decide_eq_true_eq] at h
    rcases h with ((h | h) | h) | h
    · exact ⟨_, _, h, Or.inl rfl, Or.inl rfl⟩
    · exact ⟨['%', '2', 'e'], ['.'], h, Or.inr rfl, Or.inl rfl⟩
    · exact ⟨['.'], ['%', '2', 'e'], h, Or.inl rfl, Or.inr rfl⟩
    · exact ⟨['%', '2', 'e'], ['%', '2', 'e'], h, Or.inr rfl, Or.inr rfl⟩
  obtain ⟨p, q, hmap, hp, hq⟩ := hsplit
  obtain ⟨x, y, rfl, rfl, rfl⟩ := List.map_eq_append_iff.mp hmap
  have hsecond := percentDecode_point hq []
  rw [List.append_nil] at hsecond
  rw [percentDecode_point hp, hsecond]
  rfl

/-! ### Encoded segments -/

theorem plain_of_all (h : s.all (!isIgnored ·) = true) : ∀ c ∈ s, isIgnored c = false := by
  intro c hc
  have hplain := List.all_eq_true.mp h c hc
  simpa using hplain

theorem encodeSegment_eq (h : ∀ c ∈ s, isIgnored c = false) :
    encodeSegment special s = percentEncode (inSegmentSet special) s := by
  unfold encodeSegment
  rw [List.filter_eq_self.mpr fun c hc => by rw [h c hc]; rfl]

theorem percentDecode_encodeSegment (special : Bool) (h : ∀ c ∈ s, isIgnored c = false) :
    percentDecode (encodeSegment special s) = utf8 s := by
  rw [encodeSegment_eq h]
  exact percentDecode_percentEncode (by cases special <;> rfl) s

theorem slash_not_mem_encodeSegment (special : Bool) (s : List Char) : '/' ∉ encodeSegment special s :=
  not_mem_percentEncode (by cases special <;> rfl) (by decide) (by decide) _

theorem encodeSegment_ne_nil (special : Bool) (h : ∀ c ∈ s, isIgnored c = false) (hs : s ≠ []) :
    encodeSegment special s ≠ [] := by
  intro hnil
  have hdecode := percentDecode_encodeSegment special h
  rw [hnil] at hdecode
  exact hs (utf8_injective hdecode.symm)

/-- A segment of one or two points. -/
def isPoints (s : List Char) : Bool := s = ['.'] || s = ['.', '.']

/-- A text that stands in a path as one segment: neither empty nor one or two points, and without tabs and line
breaks. -/
def IsSegment (s : String) : Prop :=
  s ≠ "" ∧ s ≠ "." ∧ s ≠ ".." ∧ ∀ c ∈ s.toList, c ≠ '\t' ∧ c ≠ '\r' ∧ c ≠ '\n'

instance (s : String) : Decidable (IsSegment s) :=
  -- The characters of the text are looked at, not all that there are.
  have : Decidable (∀ c ∈ s.toList, c ≠ '\t' ∧ c ≠ '\r' ∧ c ≠ '\n') := List.decidableBAll _ _
  inferInstanceAs (Decidable (_ ∧ _ ∧ _ ∧ _))

theorem IsSegment.plain {s : String} (h : IsSegment s) : ∀ c ∈ s.toList, isIgnored c = false := by
  intro c hc
  obtain ⟨htab, hreturn, hline⟩ := h.2.2.2 c hc
  simp [isIgnored, htab, hreturn, hline]

theorem IsSegment.stays {s : String} (h : IsSegment s) : isPoints s.toList = false := by
  have hhere : s.toList ≠ ['.'] := fun heq => h.2.1 (String.toList_inj.mp heq)
  have habove : s.toList ≠ ['.', '.'] := fun heq => h.2.2.1 (String.toList_inj.mp heq)
  simp [isPoints, hhere, habove]

/-- Only segments of points are taken for steps to a place. -/
theorem encodeSegment_stays (special : Bool) (h : ∀ c ∈ s, isIgnored c = false) (hs : isPoints s = false) :
    isAbove (encodeSegment special s) = false ∧ isHere (encodeSegment special s) = false := by
  have hdecode := percentDecode_encodeSegment special h
  simp only [isPoints, Bool.or_eq_false_iff, decide_eq_false_iff_not] at hs
  constructor
  · refine Bool.eq_false_iff.mpr fun habove => ?_
    rw [percentDecode_of_isAbove habove] at hdecode
    exact hs.2 (utf8_injective hdecode.symm)
  · refine Bool.eq_false_iff.mpr fun hhere => ?_
    rw [percentDecode_of_isHere hhere] at hdecode
    exact hs.1 (utf8_injective hdecode.symm)

/-- A segment in which nothing is ignored is passed over if it consists of points, and is appended if it does not. -/
theorem pushSegment_eq {path : List (List Char)} (h : ∀ c ∈ s, isIgnored c = false) :
    pushSegment special path s =
      if isPoints s then path else (if path = [[]] then [] else path) ++ [encodeSegment special s] := by
  unfold pushSegment
  cases hs : isPoints s with
  | true =>
    rw [if_pos (by simpa [isPoints] using hs)]
    rfl
  | false =>
    obtain ⟨habove, hhere⟩ := encodeSegment_stays special h hs
    rw [if_neg (by simpa [isPoints] using hs)]
    dsimp only
    rw [habove, hhere]
    rfl

/-- Behind a segment that is there, segments in which nothing is ignored are appended one after another. -/
theorem foldl_pushSegment {segments path : List (List Char)} (h : ∀ s ∈ segments, ∀ c ∈ s, isIgnored c = false)
    (hnil : path ≠ []) (hroot : path ≠ [[]]) :
    segments.foldl (pushSegment special) path =
      path ++ (segments.filter (!isPoints ·)).map (encodeSegment special) := by
  induction segments generalizing path with
  | nil => exact (List.append_nil path).symm
  | cons s segments ih =>
    have hrest : ∀ s ∈ segments, ∀ c ∈ s, isIgnored c = false := fun t ht => h t (List.mem_cons_of_mem s ht)
    rw [List.foldl_cons, pushSegment_eq (h s List.mem_cons_self)]
    cases hs : isPoints s with
    | true =>
      rw [if_pos rfl, ih hrest hnil hroot, List.filter_cons_of_neg (by simp [hs])]
    | false =>
      have hlonger : path ++ [encodeSegment special s] ≠ [[]] := by
        intro heq
        have hone := congrArg List.length heq
        simp at hone
        exact hnil hone
      rw [if_neg Bool.false_ne_true, if_neg hroot, ih hrest (by simp) hlonger, List.filter_cons_of_pos (by simp [hs]),
        List.map_cons, List.append_assoc]
      rfl

/-! ### Paths -/

theorem print_snoc (l : List (List Char)) (s : List Char) :
    (Path.segments (l ++ [s])).print = (Path.segments l).print ++ '/' :: s := by
  show (l ++ [s]).flatMap ('/' :: ·) = l.flatMap ('/' :: ·) ++ '/' :: s
  rw [List.flatMap_append]
  simp

/-- The pieces of a path of segments: nothing before the first slash, then those of the segments. -/
theorem split_print (l : List (List Char)) : split '/' (Path.segments l).print = [] :: l.flatMap (split '/') := by
  induction l using List.reverseRecOn with
  | nil => rfl
  | append_singleton l s ih =>
    rw [print_snoc, split_append, ih, List.flatMap_append]
    simp

theorem flatMap_split {l : List (List Char)} (h : ∀ s ∈ l, '/' ∉ s) : l.flatMap (split '/') = l := by
  induction l with
  | nil => rfl
  | cons s l ih =>
    rw [List.flatMap_cons, split_of_not_mem (h s List.mem_cons_self),
      ih fun s hs => h s (List.mem_cons_of_mem _ hs)]
    rfl

theorem append_cons_ne_root (h : e ≠ []) (l r : List (List Char)) : l ++ e :: r ≠ [[]] := by
  cases l with
  | nil =>
    intro heq
    exact h (List.cons.inj heq).1
  | cons s l => simp

/-! ### Addresses -/

variable {u v w : Url} {first : List Char} {rest : List (List Char)}

/-- What stands in the path of an address below which others are: all but an empty last segment. -/
def stem (u : Url) : List (List Char) :=
  match u.path with
  | .segments l => if popEmpty l = [[]] then [] else popEmpty l
  | .text _ => []

/-- Behind an address stand the segments that are appended to it, each encoded. The first is not empty, so that it does
not give way to the next. -/
theorem join?_segments (h : u.join? (first :: rest) = some v) (hne : first ≠ []) (hpoints : isPoints first = false)
    (hplain : ∀ s ∈ first :: rest, ∀ c ∈ s, isIgnored c = false) :
    v.path = .segments (u.stem ++ encodeSegment (isSpecial u.scheme) first ::
      (rest.filter (!isPoints ·)).map (encodeSegment (isSpecial u.scheme))) := by
  have hencoded := encodeSegment_ne_nil (isSpecial u.scheme) (hplain first List.mem_cons_self) hne
  unfold join? at h
  split at h
  · cases h
  · rename_i l hpath
    obtain rfl := Option.some.inj h
    have hstem : u.stem = if popEmpty l = [[]] then [] else popEmpty l := by
      unfold stem
      rw [hpath]
    refine congrArg Path.segments ?_
    rw [List.foldl_cons, pushSegment_eq (hplain first List.mem_cons_self), hpoints, ← hstem]
    show rest.foldl (pushSegment (isSpecial u.scheme)) (u.stem ++ [encodeSegment (isSpecial u.scheme) first]) = _
    rw [foldl_pushSegment (fun s hs => hplain s (List.mem_cons_of_mem _ hs)) (by simp)
      (append_cons_ne_root hencoded u.stem []), List.append_assoc]
    rfl

theorem split_join? (h : u.join? (first :: rest) = some v) (hne : first ≠ []) (hpoints : isPoints first = false)
    (hplain : ∀ s ∈ first :: rest, ∀ c ∈ s, isIgnored c = false) :
    ∃ before, split '/' v.path.print = before ++ encodeSegment (isSpecial u.scheme) first ::
      (rest.filter (!isPoints ·)).map (encodeSegment (isSpecial u.scheme)) := by
  refine ⟨[] :: u.stem.flatMap (split '/'), ?_⟩
  rw [join?_segments h hne hpoints hplain, split_print, List.flatMap_append, flatMap_split (l := encodeSegment _ first :: _)]
  · rfl
  · intro s hs
    rcases List.mem_cons.mp hs with rfl | hs
    · exact slash_not_mem_encodeSegment _ first
    · obtain ⟨t, -, rfl⟩ := List.mem_map.mp hs
      exact slash_not_mem_encodeSegment _ t

/-- One more segment that is not passed over stands behind the others. -/
theorem join?_snoc (h : u.join? (first :: rest) = some v) (hne : first ≠ []) (hpoints : isPoints first = false)
    (hplain : ∀ s ∈ first :: rest, ∀ c ∈ s, isIgnored c = false) (hs : isPoints s = false)
    (hsplain : ∀ c ∈ s, isIgnored c = false) : ∃ w, u.join? (first :: rest ++ [s]) = some w ∧
      w.path.print = v.path.print ++ '/' :: encodeSegment (isSpecial u.scheme) s := by
  have hencoded := encodeSegment_ne_nil (isSpecial u.scheme) (hplain first List.mem_cons_self) hne
  have hbefore := join?_segments h hne hpoints hplain
  unfold join? at h ⊢
  split at h
  · cases h
  · rename_i l hpath
    obtain rfl := Option.some.inj h
    refine ⟨_, rfl, ?_⟩
    have hpushed : (first :: rest ++ [s]).foldl (pushSegment (isSpecial u.scheme)) (popEmpty l) =
        (first :: rest).foldl (pushSegment (isSpecial u.scheme)) (popEmpty l) ++
          [encodeSegment (isSpecial u.scheme) s] := by
      rw [List.foldl_append, List.foldl_cons, List.foldl_nil, pushSegment_eq hsplain, hs, Path.segments.inj hbefore]
      rw [if_neg Bool.false_ne_true, if_neg (append_cons_ne_root hencoded _ _)]
    show (Path.segments ((first :: rest ++ [s]).foldl _ _)).print = _
    rw [hpushed, print_snoc]

end Muster.Url
