import Muster.Text.Case

/-! # Letter case

A small letter of ASCII comes from itself or from its capital; a character before the small letters comes from itself
alone, so signs are where they were when a text is put in small letters. -/

namespace Muster.Text

variable {c d : Char} {s : List Char}

/-! ### ASCII -/

/-- A small letter is its own, or that of the capital 32 places before it. -/
theorem toLower_cases (c : Char) :
    c.toLower = c ∨ 65 ≤ c.toNat ∧ c.toNat ≤ 90 ∧ c.toLower.toNat = c.toNat + 32 := by
  unfold Char.toLower
  split
  · rename_i hcapital
    obtain ⟨hlow, hhigh⟩ := hcapital
    have hlow : 65 ≤ c.toNat := hlow
    have hhigh : c.toNat ≤ 90 := hhigh
    refine Or.inr ⟨hlow, hhigh, ?_⟩
    show (c.val + 32).toNat = c.val.toNat + 32
    rw [UInt32.toNat_add]
    exact Nat.mod_eq_of_lt (by show c.toNat + 32 < _; omega)
  · exact Or.inl rfl

theorem eq_of_toLower (h : c.toLower = d) (hd : d.toNat < 97) : c = d := by
  rcases toLower_cases c with hself | ⟨hlow, -, hletter⟩
  · exact hself.symm.trans h
  · rw [h] at hletter
    omega

theorem eq_of_toLower_e (h : c.toLower = 'e') : c = 'e' ∨ c = 'E' := by
  rcases toLower_cases c with hself | ⟨-, -, hletter⟩
  · exact Or.inl (hself.symm.trans h)
  · rw [h] at hletter
    have hcapital : 'e'.toNat = 'E'.toNat + 32 := rfl
    exact Or.inr (Char.toNat_inj.mp (by omega))

/-! ### All scripts -/

/-- Small letters beyond ASCII are none of ASCII's signs. -/
theorem le_small : ∀ run ∈ capitalRuns, 97 ≤ run.2.2.2 := by decide +kernel

theorem toNat_ofNat_cases (n : Nat) : (Char.ofNat n).toNat = n ∨ (Char.ofNat n).toNat = 0 := by
  by_cases hvalid : n.isValidChar
  · have hchar : Char.ofNat n = Char.ofNatAux n hvalid := dif_pos hvalid
    rw [hchar]
    exact Or.inl rfl
  · have hchar : Char.ofNat n = Char.ofNat 0 := dif_neg hvalid
    rw [hchar]
    exact Or.inr rfl

theorem eq_of_mem_lowerChar (h : c ∈ lowerChar d) (hzero : 0 < c.toNat) (hc : c.toNat < 97) : c = d := by
  unfold lowerChar at h
  dsimp only at h
  split at h
  · exact (eq_of_toLower (List.mem_singleton.mp h).symm hc).symm
  · split at h
    · simp only [List.mem_cons, List.not_mem_nil, or_false] at h
      rcases h with rfl | rfl
      · exact absurd hc (by decide)
      · exact absurd hc (by decide)
    · split at h
      · rename_i a _ _ small hrun
        obtain rfl := List.mem_singleton.mp h
        have hsmall : 97 ≤ small := le_small _ (List.mem_of_find?_eq_some hrun)
        rcases toNat_ofNat_cases (small + (d.toNat - a)) with hn | hn
        · omega
        · omega
      · exact List.mem_singleton.mp h

theorem mem_of_mem_lowerAfter {before : List Char} (h : c ∈ lowerAfter before s) (hzero : 0 < c.toNat)
    (hc : c.toNat < 97) : c ∈ s := by
  induction s generalizing before with
  | nil => exact h
  | cons d s ih =>
    rcases List.mem_append.mp h with hmem | hmem
    · split at hmem
      · -- The sigma of the end of a word is none of ASCII.
        obtain rfl := List.mem_singleton.mp hmem
        exact absurd hc (by decide)
      · rw [eq_of_mem_lowerChar hmem hzero hc]
        exact List.mem_cons_self
    · exact List.mem_cons_of_mem d (ih hmem)

/-- A sign before the small letters that stands in a text in small letters stands in the text. -/
theorem mem_of_mem_lower (h : c ∈ lower s) (hzero : 0 < c.toNat) (hc : c.toNat < 97) : c ∈ s :=
  mem_of_mem_lowerAfter h hzero hc

theorem lowerAfter_eq_self (before : List Char) (h : ∀ c ∈ s, c.toNat < 65) : lowerAfter before s = s := by
  induction s generalizing before with
  | nil => rfl
  | cons c s ih =>
    have hc := h c List.mem_cons_self
    have hself : c.toLower = c := by
      rcases toLower_cases c with hself | ⟨hlow, -⟩
      · exact hself
      · omega
    have hsigma : c ≠ '\u03A3' := by
      rintro rfl
      exact absurd hc (by decide)
    rw [lowerAfter, ih (c :: before) fun d hd => h d (List.mem_cons_of_mem c hd), lowerChar_of_lt c (by omega), hself]
    simp [hsigma]

/-- A text of ASCII characters that are no capitals is in small letters. -/
theorem lower_eq_self (h : ∀ c ∈ s, c.toNat < 65) : lower s = s := lowerAfter_eq_self [] h

end Muster.Text
