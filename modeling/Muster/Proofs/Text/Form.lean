import Muster.Proofs.Text.Percent
import Muster.Proofs.Text.Pieces
import Muster.Text.Form

/-! # Forms, read back

A form that was written is read as the pairs it was written of, whatever stands in them: names and values are encoded so
that no sign between them is left, and decoded to themselves. -/

namespace Muster.Text

variable {c : Char} {s : List Char}

/-! ### Names and values -/

/-- What a form encodes besides the blank. -/
def inFormSet (c : Char) : Bool := !isFormPlain c && c ≠ ' '

theorem not_mem_percentChar {set : Char → Bool} (hset : set c = true) (hpercent : c ≠ '%')
    (hdigit : Json.hexDigit? c = none) (d : Char) : c ∉ percentChar set d := by
  have h := not_mem_percentEncode hset hpercent hdigit [d]
  rwa [percentEncode, List.flatMap_singleton] at h

/-- A sign that a form does not write as it is does not stand in what it writes. -/
theorem not_mem_formEncode (hplain : isFormPlain c = false) (hplus : c ≠ '+') (hpercent : c ≠ '%')
    (hdigit : Json.hexDigit? c = none) (s : List Char) : c ∉ formEncode s := by
  intro h
  obtain ⟨d, -, hd⟩ := List.mem_flatMap.mp h
  split at hd
  · exact hplus (List.mem_singleton.mp hd)
  · exact not_mem_percentChar (by simp [hplain]) hpercent hdigit d hd

/-- Where the pluses of a form are blanks again, all else is encoded as in a path. -/
theorem map_formEncode (s : List Char) :
    (formEncode s).map (fun c => if c = '+' then ' ' else c) = percentEncode inFormSet s := by
  unfold formEncode percentEncode
  rw [List.map_flatMap]
  refine congrArg (s.flatMap ·) (funext fun c => ?_)
  by_cases hc : c = ' '
  · subst hc
    rfl
  · have hset : percentChar (!isFormPlain ·) c = percentChar inFormSet c := by simp [percentChar, inFormSet, hc]
    have hplus : '+' ∉ percentChar (!isFormPlain ·) c := not_mem_percentChar (by decide) (by decide) (by decide) c
    rw [if_neg hc, ← hset]
    refine (List.map_congr_left fun d hd => if_neg ?_).trans (List.map_id _)
    rintro rfl
    exact hplus hd

theorem fromUtf8Lossy_utf8 (s : List Char) : fromUtf8Lossy (utf8 s) = s := by
  unfold fromUtf8Lossy
  rw [pieces_utf8, List.map_map]
  exact List.map_id s

/-- A name or value is read as it was written. -/
theorem formDecode_formEncode (s : List Char) : formDecode (formEncode s) = s := by
  unfold formDecode
  rw [map_formEncode, percentDecode_percentEncode (by decide), fromUtf8Lossy_utf8]

/-! ### Pairs -/

theorem formPairOf_formPair (p : String × String) : formPairOf (formPair p) = p := by
  have hname : '=' ∉ formEncode p.1.toList := not_mem_formEncode (by decide) (by decide) (by decide) (by decide) _
  have hbefore : ∀ c ∈ formEncode p.1.toList, (decide (c ≠ '=')) = true := fun c hc =>
    decide_eq_true fun heq => hname (heq ▸ hc)
  unfold formPairOf formPair
  rw [List.takeWhile_append_of_pos hbefore, List.dropWhile_append_of_pos hbefore, List.takeWhile_cons_of_neg (by simp),
    List.dropWhile_cons_of_neg (by simp), List.append_nil, List.drop_one, List.tail_cons, formDecode_formEncode,
    formDecode_formEncode, String.ofList_toList, String.ofList_toList]

theorem formPair_ne_nil (p : String × String) : formPair p ≠ [] :=
  List.append_ne_nil_of_right_ne_nil _ (List.cons_ne_nil _ _)

theorem ampersand_not_mem_formPair (p : String × String) : '&' ∉ formPair p := by
  have hencoded (s : List Char) : '&' ∉ formEncode s :=
    not_mem_formEncode (by decide) (by decide) (by decide) (by decide) s
  intro h
  rcases List.mem_append.mp h with h | h
  · exact hencoded _ h
  · rcases List.mem_cons.mp h with h | h
    · exact absurd h (by decide)
    · exact hencoded _ h

/-! ### Forms -/

theorem split_formText (p : String × String) (r : List (String × String)) :
    split '&' (formText (p :: r)) = (p :: r).map formPair := by
  have hpair (p : String × String) : split '&' (formPair p) = [formPair p] :=
    split_of_not_mem (ampersand_not_mem_formPair p)
  induction r generalizing p with
  | nil => exact hpair p
  | cons q r ih =>
    show split '&' (formPair p ++ '&' :: formText (q :: r)) = _
    rw [split_append, hpair, ih]
    rfl

/-- A form is read as the pairs that it was written of. -/
theorem formPairs_formText (fields : List (String × String)) : formPairs (formText fields) = fields := by
  cases fields with
  | nil => rfl
  | cons p r =>
    unfold formPairs
    rw [split_formText, List.filter_eq_self.mpr, List.map_map]
    · exact (List.map_congr_left fun q _ => formPairOf_formPair q).trans (List.map_id _)
    · intro t ht
      obtain ⟨q, -, rfl⟩ := List.mem_map.mp ht
      simp [formPair_ne_nil q]

end Muster.Text
