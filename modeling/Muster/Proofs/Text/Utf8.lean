import Muster.Text.Utf8

/-! # UTF-8, read back

The octets of a text are read as the text: reading finds each character where its octets stand, whatever follows them.
So no two texts have the same octets. -/

namespace Muster.Text

/-! ### One octet -/

theorem piecesFrom_none_cons (b : Nat) (s : List Nat) : piecesFrom none (b :: s) =
    match lead b with
    | .whole c => some c :: piecesFrom none s
    | .begun p => piecesFrom (some p) s
    | .stray => none :: piecesFrom none s := rfl

/-- An octet that a character takes ends the character, or leaves it one octet shorter. -/
theorem piecesFrom_some_cons {p : Begun} {b : Nat} (hlow : p.low ≤ b) (hhigh : b ≤ p.high) (s : List Nat) :
    piecesFrom (some p) (b :: s) =
      if p.owed ≤ 1 then some (Char.ofNat (p.bits * 64 + b % 64)) :: piecesFrom none s
      else piecesFrom (some ⟨p.owed - 1, 0x80, 0xBF, p.bits * 64 + b % 64⟩) s := by
  have htaken : (decide (p.low ≤ b) && decide (b ≤ p.high)) = true := by simp [hlow, hhigh]
  rw [piecesFrom]
  simp only [htaken, if_true]

theorem piecesFrom_last {low high bits b : Nat} (hlow : low ≤ b) (hhigh : b ≤ high) (s : List Nat) :
    piecesFrom (some ⟨1, low, high, bits⟩) (b :: s) =
      some (Char.ofNat (bits * 64 + b % 64)) :: piecesFrom none s := by
  rw [piecesFrom_some_cons hlow hhigh]
  rfl

theorem piecesFrom_next {owed low high bits b : Nat} (hlow : low ≤ b) (hhigh : b ≤ high) (s : List Nat) :
    piecesFrom (some ⟨owed + 2, low, high, bits⟩) (b :: s) =
      piecesFrom (some ⟨owed + 1, 0x80, 0xBF, bits * 64 + b % 64⟩) s := by
  rw [piecesFrom_some_cons hlow hhigh]
  exact if_neg (by simp)

/-! ### One character -/

theorem lead_whole {n : Nat} (h : n < 0x80) : lead n = .whole (Char.ofNat n) := if_pos h

theorem lead_two {n : Nat} (hlow : 0x80 ≤ n) (hhigh : n < 0x800) :
    lead (0xC0 + n / 64) = .begun ⟨1, 0x80, 0xBF, n / 64⟩ := by
  have hbits : (0xC0 + n / 64) % 32 = n / 64 := by omega
  unfold lead
  rw [if_neg (by omega), if_pos (by simp; omega), hbits]

theorem lead_three {n : Nat} (hhigh : n < 0x10000) : lead (0xE0 + n / 4096) =
    .begun ⟨2, if n / 4096 = 0 then 0xA0 else 0x80, if n / 4096 = 13 then 0x9F else 0xBF, n / 4096⟩ := by
  have hbits : (0xE0 + n / 4096) % 16 = n / 4096 := by omega
  have hzero : 0xE0 + n / 4096 = 0xE0 ↔ n / 4096 = 0 := by omega
  have hsurrogate : 0xE0 + n / 4096 = 0xED ↔ n / 4096 = 13 := by omega
  unfold lead
  rw [if_neg (by omega), if_neg (by simp; omega), if_pos (by simp; omega), hbits]
  simp only [hzero, hsurrogate]

theorem lead_four {n : Nat} (hhigh : n < 0x110000) : lead (0xF0 + n / 262144) =
    .begun ⟨3, if n / 262144 = 0 then 0x90 else 0x80, if n / 262144 = 4 then 0x8F else 0xBF, n / 262144⟩ := by
  have hbits : (0xF0 + n / 262144) % 8 = n / 262144 := by omega
  have hzero : 0xF0 + n / 262144 = 0xF0 ↔ n / 262144 = 0 := by omega
  have hlast : 0xF0 + n / 262144 = 0xF4 ↔ n / 262144 = 4 := by omega
  unfold lead
  rw [if_neg (by omega), if_neg (by simp; omega), if_neg (by simp; omega), if_pos (by simp; omega), hbits]
  simp only [hzero, hlast]

theorem piecesFrom_utf8Char (c : Char) (s : List Nat) :
    piecesFrom none (utf8Char c ++ s) = some c :: piecesFrom none s := by
  have hvalid : c.toNat < 0xD800 ∨ 0xDFFF < c.toNat ∧ c.toNat < 0x110000 := c.valid
  have hchar : Char.ofNat c.toNat = c := Char.ofNat_toNat c
  unfold utf8Char
  generalize c.toNat = n at hvalid hchar ⊢
  dsimp only
  -- One case for each number of octets.
  split
  · rename_i hone
    rw [List.cons_append, List.nil_append, piecesFrom_none_cons, lead_whole hone, hchar]
  · split
    · rename_i htwo
      have hn : n / 64 * 64 + (0x80 + n % 64) % 64 = n := by omega
      simp only [List.cons_append, List.nil_append]
      rw [piecesFrom_none_cons, lead_two (by omega) htwo]
      dsimp only
      rw [piecesFrom_last (by omega) (by omega), hn, hchar]
    · split
      · rename_i hthree
        have hn : (n / 4096 * 64 + (0x80 + n / 64 % 64) % 64) * 64 + (0x80 + n % 64) % 64 = n := by omega
        simp only [List.cons_append, List.nil_append]
        rw [piecesFrom_none_cons, lead_three hthree]
        dsimp only
        rw [piecesFrom_next (by split <;> omega) (by split <;> omega), piecesFrom_last (by omega) (by omega), hn, hchar]
      · have hn : ((n / 262144 * 64 + (0x80 + n / 4096 % 64) % 64) * 64 + (0x80 + n / 64 % 64) % 64) * 64 +
            (0x80 + n % 64) % 64 = n := by omega
        simp only [List.cons_append, List.nil_append]
        rw [piecesFrom_none_cons, lead_four (by omega)]
        dsimp only
        rw [piecesFrom_next (by split <;> omega) (by split <;> omega), piecesFrom_next (by omega) (by omega),
          piecesFrom_last (by omega) (by omega), hn, hchar]

/-! ### Texts -/

theorem pieces_utf8 (s : List Char) : pieces (utf8 s) = s.map some := by
  unfold pieces
  induction s with
  | nil => rfl
  | cons c s ih =>
    show piecesFrom none (utf8Char c ++ utf8 s) = some c :: s.map some
    rw [piecesFrom_utf8Char, ih]

/-- The octets of a text are read as the text. -/
theorem fromUtf8?_utf8 (s : List Char) : fromUtf8? (utf8 s) = some s := by
  unfold fromUtf8?
  rw [pieces_utf8]
  induction s with
  | nil => rfl
  | cons c s ih =>
    rw [List.map_cons, List.mapM_cons, ih]
    rfl

theorem utf8_injective {s t : List Char} (h : utf8 s = utf8 t) : s = t := by
  have hs := fromUtf8?_utf8 s
  rw [h, fromUtf8?_utf8] at hs
  exact (Option.some.inj hs).symm

theorem utf8Char_lt (c : Char) : ∀ b ∈ utf8Char c, b < 256 := by
  have hvalid : c.toNat < 0xD800 ∨ 0xDFFF < c.toNat ∧ c.toNat < 0x110000 := c.valid
  unfold utf8Char
  dsimp only
  split
  · simp; omega
  · split
    · simp; omega
    · split
      · simp; omega
      · simp; omega

end Muster.Text
