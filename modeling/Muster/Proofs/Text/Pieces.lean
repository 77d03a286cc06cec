import Muster.Text.Split

/-! # Pieces of texts

The pieces between separators are those of the core library's `splitOn`: a separator between two texts keeps their
pieces apart, and pieces without separators are found again in the text that they are joined to. -/

namespace Muster.Text

variable {sep : Char → Bool} {c : Char} {s t p : List Char}

theorem splitWhere_eq_splitOnP (sep : Char → Bool) (s : List Char) : splitWhere sep s = s.splitOnP sep := by
  induction s with
  | nil => rfl
  | cons d s ih =>
    rw [splitWhere, List.splitOnP_cons_eq_if_modifyHead, ih]
    split
    · rfl
    · cases h : s.splitOnP sep with
      | nil => exact absurd h (List.splitOnP_ne_nil sep s)
      | cons p ps => rfl

theorem split_eq_splitOn (c : Char) (s : List Char) : split c s = s.splitOn c := by
  rw [split, splitWhere_eq_splitOnP, List.splitOn_eq_splitOnP]
  rfl

/-- The pieces of a text are those before a separator and those behind it. -/
theorem splitWhere_append (h : sep c = true) (s t : List Char) :
    splitWhere sep (s ++ c :: t) = splitWhere sep s ++ splitWhere sep t := by
  simp only [splitWhere_eq_splitOnP, List.splitOnP_append_cons s t h]

theorem split_append (c : Char) (s t : List Char) : split c (s ++ c :: t) = split c s ++ split c t :=
  splitWhere_append (decide_eq_true rfl) s t

theorem split_of_not_mem (h : c ∉ s) : split c s = [s] := by
  rw [split_eq_splitOn, List.splitOn_eq_singleton h]

/-- No separator stands in a piece. -/
theorem sep_of_mem_splitWhere (h : p ∈ splitWhere sep s) (hc : c ∈ p) : sep c = false := by
  induction s generalizing p with
  | nil =>
    obtain rfl := List.mem_singleton.mp h
    cases hc
  | cons d s ih =>
    rw [splitWhere] at h
    split at h
    · rcases List.mem_cons.mp h with rfl | h
      · cases hc
      · exact ih h hc
    · rename_i hd
      split at h
      · rename_i hnil
        exact absurd hnil (splitWhere_ne_nil sep s)
      · rename_i q qs hq
        rcases List.mem_cons.mp h with rfl | h
        · rcases List.mem_cons.mp hc with rfl | hc
          · exact Bool.eq_false_iff.mpr hd
          · exact ih (hq ▸ List.mem_cons_self) hc
        · exact ih (hq ▸ List.mem_cons_of_mem q h) hc

theorem not_mem_of_mem_split (h : p ∈ split c s) : c ∉ p := by
  intro hc
  have hapart := sep_of_mem_splitWhere h hc
  simp at hapart

/-- The pieces of a text make up the text again. -/
theorem intercalate_split (c : Char) (s : List Char) : [c].intercalate (split c s) = s := by
  rw [split_eq_splitOn, List.intercalate_splitOn]

theorem split_inj (h : split c s = split c t) : s = t := by
  rw [← intercalate_split c s, h, intercalate_split]

/-- A text of one piece is that piece. -/
theorem eq_of_split (h : split c s = [t]) : s = t := by
  rw [← intercalate_split c s, h, List.intercalate_singleton]

end Muster.Text
