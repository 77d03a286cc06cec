import Muster.Proofs.Text.Utf8
import Muster.Text.Percent

/-! # Percent encoding, read back

A text that is encoded with a set that has the percent sign is decoded to its own octets. What is encoded of it stands
there as percent signs and digits alone, so that no other character of the set is left. -/

namespace Muster.Text

variable {set : Char → Bool} {c : Char} {s : List Char}

/-! ### Octets -/

theorem hexDigit?_hexCapital : ∀ n < 16, Json.hexDigit? (hexCapital n) = some n := by decide

theorem percentDecode_percentOctet {b : Nat} (h : b < 256) (r : List Char) :
    percentDecode (percentOctet b ++ r) = b :: percentDecode r := by
  have hhigh := hexDigit?_hexCapital (b / 16) (by omega)
  have hlow := hexDigit?_hexCapital (b % 16) (by omega)
  have hb : b / 16 * 16 + b % 16 = b := by omega
  show percentDecode ('%' :: hexCapital (b / 16) :: hexCapital (b % 16) :: r) = _
  rw [percentDecode]
  simp only [hhigh, hlow, hb]

theorem percentDecode_octets {l : List Nat} (h : ∀ b ∈ l, b < 256) (r : List Char) :
    percentDecode (l.flatMap percentOctet ++ r) = l ++ percentDecode r := by
  induction l with
  | nil => rfl
  | cons b l ih =>
    rw [List.flatMap_cons, List.append_assoc, percentDecode_percentOctet (h b List.mem_cons_self),
      ih fun b hb => h b (List.mem_cons_of_mem _ hb)]
    rfl

theorem percentDecode_cons (h : c ≠ '%') (r : List Char) : percentDecode (c :: r) = utf8Char c ++ percentDecode r := by
  rw [percentDecode]
  rintro a b r' rfl
  exact absurd rfl h

/-! ### Texts -/

theorem percentDecode_percentChar (hset : set '%' = true) (c : Char) (r : List Char) :
    percentDecode (percentChar set c ++ r) = utf8Char c ++ percentDecode r := by
  unfold percentChar
  by_cases hc : set c = true
  · rw [if_pos hc, percentDecode_octets (utf8Char_lt c)]
  · rw [if_neg hc]
    refine percentDecode_cons ?_ r
    rintro rfl
    exact hc hset

theorem percentDecode_percentEncode (hset : set '%' = true) (s : List Char) :
    percentDecode (percentEncode set s) = utf8 s := by
  induction s with
  | nil => rfl
  | cons c s ih =>
    show percentDecode (percentChar set c ++ percentEncode set s) = utf8Char c ++ utf8 s
    rw [percentDecode_percentChar hset, ih]

/-- What stands in an encoded text: what is not encoded, percent signs, and digits. -/
theorem mem_percentEncode (h : c ∈ percentEncode set s) :
    c ∈ s ∧ set c = false ∨ c = '%' ∨ ∃ n < 16, c = hexCapital n := by
  obtain ⟨d, hd, hc⟩ := List.mem_flatMap.mp h
  unfold percentChar at hc
  split at hc
  · obtain ⟨b, hb, hc⟩ := List.mem_flatMap.mp hc
    have hlt := utf8Char_lt d b hb
    simp only [percentOctet, List.mem_cons, List.not_mem_nil, or_false] at hc
    rcases hc with rfl | rfl | rfl
    · exact Or.inr (Or.inl rfl)
    · exact Or.inr (Or.inr ⟨b / 16, by omega, rfl⟩)
    · exact Or.inr (Or.inr ⟨b % 16, by omega, rfl⟩)
  · rename_i hset
    obtain rfl := List.mem_singleton.mp hc
    exact Or.inl ⟨hd, by simpa using hset⟩

/-- A character of the set is gone from an encoded text, if it is no percent sign and no digit. -/
theorem not_mem_percentEncode (hset : set c = true) (hpercent : c ≠ '%') (hdigit : Json.hexDigit? c = none)
    (s : List Char) : c ∉ percentEncode set s := by
  intro h
  rcases mem_percentEncode h with ⟨-, hc⟩ | rfl | ⟨n, hn, rfl⟩
  · rw [hset] at hc
    cases hc
  · exact hpercent rfl
  · rw [hexDigit?_hexCapital n hn] at hdigit
    cases hdigit

end Muster.Text
