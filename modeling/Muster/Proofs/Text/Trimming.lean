import Mathlib.Data.List.DropRight
import Muster.Text.Blank

/-! # Trimmed texts

Trimming cuts the blanks at both ends of a text and nothing else: what is left begins and ends with no blank, blanks put
around a text are cut again, and a text that neither begins nor ends with one stays as it is. -/

namespace Muster.Text

variable {c : Char} {s before behind : List Char}

theorem trimEnd_eq_rdropWhile (s : List Char) : trimEnd s = s.rdropWhile isBlank := rfl

theorem mem_dropWhile {p : Char → Bool} (hc : c ∈ s) (hp : p c = false) : c ∈ s.dropWhile p := by
  induction s with
  | nil => cases hc
  | cons d s ih =>
    rw [List.dropWhile_cons]
    rcases List.mem_cons.mp hc with rfl | hc
    · rw [hp]
      exact List.mem_cons_self
    · split
      · exact ih hc
      · exact List.mem_cons_of_mem d hc

/-- A character that is no blank stays when blanks are cut. -/
theorem mem_trim (hc : c ∈ s) (hblank : isBlank c = false) : c ∈ trim s := by
  have hstart : c ∈ trimStart s := mem_dropWhile hc hblank
  exact List.mem_reverse.mpr (mem_dropWhile (List.mem_reverse.mpr hstart) hblank)

theorem trimmed_ne_empty {s : String} (h : s.toList.any (!isBlank ·) = true) : trimmed s ≠ "" := by
  obtain ⟨c, hc, hblank⟩ := List.any_eq_true.mp h
  intro hempty
  have hmem := mem_trim hc (by simpa using hblank)
  rw [show trim s.toList = [] from String.ofList_eq_empty_iff.mp hempty] at hmem
  cases hmem

theorem mem_of_mem_trim (h : c ∈ trim s) : c ∈ s :=
  (List.dropWhile_sublist isBlank).mem ((List.rdropWhile_prefix isBlank (trimStart s)).mem h)

/-! ### Ends -/

/-- A text neither begins nor ends with a blank. -/
def IsTrimmed (s : List Char) : Prop :=
  (∀ c, s.head? = some c → isBlank c = false) ∧ ∀ c, s.getLast? = some c → isBlank c = false

theorem isTrimmed_trim (s : List Char) : IsTrimmed (trim s) := by
  constructor
  · intro c hc
    obtain ⟨r, hr⟩ := List.head?_eq_some_iff.mp hc
    obtain ⟨t, ht⟩ := List.rdropWhile_prefix isBlank (trimStart s)
    have hstart : (s.dropWhile isBlank).head? = some c := by
      rw [← trimEnd_eq_rdropWhile, ← trim, hr] at ht
      rw [← trimStart, ← ht, List.cons_append, List.head?_cons]
    have hnot := List.head?_dropWhile_not isBlank s
    rw [hstart] at hnot
    exact hnot
  · intro c hc
    have hne : trim s ≠ [] := fun h => by rw [h] at hc; cases hc
    have hnot := List.rdropWhile_last_not isBlank (trimStart s) hne
    rw [List.getLast?_eq_some_getLast hne, Option.some.injEq] at hc
    rw [← hc]
    exact Bool.eq_false_iff.mpr hnot

theorem IsTrimmed.trim_eq (h : IsTrimmed s) : trim s = s := by
  have hstart : trimStart s = s := List.dropWhile_eq_self_iff.mpr fun hpos => by
    rw [h.1 _ (List.head?_eq_getElem?.trans (List.getElem?_eq_getElem hpos))]
    exact Bool.false_ne_true
  rw [trim, hstart]
  refine List.rdropWhile_eq_self_iff.mpr fun hne => ?_
  rw [h.2 _ (List.getLast?_eq_some_getLast hne)]
  exact Bool.false_ne_true

/-! ### Blanks around a text -/

theorem trimEnd_append (hbehind : ∀ c ∈ behind, isBlank c = true) (s : List Char) :
    trimEnd (s ++ behind) = trimEnd s := by
  rw [trimEnd, List.reverse_append, List.dropWhile_append_of_pos fun c hc => hbehind c (List.mem_reverse.mp hc), trimEnd]

theorem trimEnd_of_blank (hbehind : ∀ c ∈ behind, isBlank c = true) : trimEnd behind = [] :=
  trimEnd_append hbehind []

/-- Blanks around a text are cut. -/
theorem trim_pad (hbefore : ∀ c ∈ before, isBlank c = true) (hbehind : ∀ c ∈ behind, isBlank c = true)
    (s : List Char) : trim (before ++ s ++ behind) = trim s := by
  rw [trim, trimStart, List.append_assoc, List.dropWhile_append_of_pos hbefore, List.dropWhile_append]
  split
  · -- Where the text is blank there is nothing left of the blanks behind it either.
    rename_i hempty
    rw [trim, trimStart, List.isEmpty_iff.mp hempty, trimEnd_of_blank]
    · rfl
    · exact fun c hc => hbehind c ((List.dropWhile_sublist isBlank).mem hc)
  · exact trimEnd_append hbehind (trimStart s)

end Muster.Text
