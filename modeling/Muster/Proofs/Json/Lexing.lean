import Mathlib.Data.Nat.Digits.Defs
import Mathlib.Tactic.SplitIfs
import Muster.Json.Printer
import Muster.Json.Token

/-! # Reading tokens that were written

The tokens of a text that was written are those it was written from. A text lexes to its tokens whatever follows it,
as long as that does not go on with a number: behind a value there is only a comma, a closing bracket or nothing. -/

namespace Muster.Json

/-! ### Strings -/

theorem hexDigit?_hexChar {n : Nat} (h : n < 16) : hexDigit? (hexChar n) = some n := by
  have table : ∀ i : Fin 16, hexDigit? (hexChar i) = some i.val := by decide
  exact table ⟨n, h⟩

/-- A character is written as it is, with a backslash, or by its number. -/
theorem escapeChar_cases (c : Char) :
    (∃ d, d ≠ 'u' ∧ unescape? d = some c ∧ escapeChar c = ['\\', d]) ∨
      (c.toNat < 0x20 ∧ escapeChar c = ['\\', 'u', '0', '0', hexChar (c.toNat / 16), hexChar (c.toNat % 16)]) ∨
      (c ≠ '"' ∧ c ≠ '\\' ∧ ¬ c.toNat < 0x20 ∧ escapeChar c = [c]) := by
  unfold escapeChar
  split_ifs with h₁ h₂ h₃ h₄ h₅ h₆ h₇ h₈
  · exact Or.inl ⟨'"', by decide, by rw [h₁]; rfl, rfl⟩
  · exact Or.inl ⟨'\\', by decide, by rw [h₂]; rfl, rfl⟩
  · exact Or.inl ⟨'b', by decide, by rw [h₃]; rfl, rfl⟩
  · exact Or.inl ⟨'f', by decide, by rw [h₄]; rfl, rfl⟩
  · exact Or.inl ⟨'n', by decide, by rw [h₅]; rfl, rfl⟩
  · exact Or.inl ⟨'r', by decide, by rw [h₆]; rfl, rfl⟩
  · exact Or.inl ⟨'t', by decide, by rw [h₇]; rfl, rfl⟩
  · exact Or.inr (Or.inl ⟨h₈, rfl⟩)
  · exact Or.inr (Or.inr ⟨h₁, h₂, h₈, rfl⟩)

section
variable {pending : Option Nat} {text : Option (List Char)} {c d : Char} {r : List Char} {count value n : Nat}

theorem readString_unescape (hc : c ≠ 'u') (h : unescape? c = some d) :
    readString .plain pending text ('\\' :: c :: r) = readString .plain none (addChar pending text d) r := by
  show readString .escape pending text (c :: r) = _
  rw [readString, if_neg hc, h]

theorem readString_digit (hcount : count < 3) (h : hexDigit? c = some n) :
    readString (.digits count value) pending text (c :: r) =
      readString (.digits (count + 1) (value * 16 + n)) pending text r := by
  rw [readString, h]
  exact if_pos hcount

/-- The last digit completes a number. -/
theorem readString_lastDigit (h : hexDigit? c = some n) :
    readString (.digits 3 value) pending text (c :: r) =
      readString .plain (addUnit pending text (value * 16 + n)).1 (addUnit pending text (value * 16 + n)).2 r := by
  rw [readString, h]
  rfl

end

/-- The number of a control character is read as the character. -/
theorem readString_number {c : Char} (h : c.toNat < 0x20) (text rest : List Char) :
    readString .plain none (some text)
        (['\\', 'u', '0', '0', hexChar (c.toNat / 16), hexChar (c.toNat % 16)] ++ rest) =
      readString .plain none (some (c :: text)) rest := by
  have high : hexDigit? (hexChar (c.toNat / 16)) = some (c.toNat / 16) := hexDigit?_hexChar (by omega)
  have low : hexDigit? (hexChar (c.toNat % 16)) = some (c.toNat % 16) := hexDigit?_hexChar (by omega)
  have unit : addUnit none (some text) (c.toNat / 16 * 16 + c.toNat % 16) = (none, some (c :: text)) := by
    have hn : c.toNat / 16 * 16 + c.toNat % 16 = c.toNat := by omega
    rw [hn, addUnit, if_neg (by omega), if_neg (by omega)]
    simp
  show readString (.digits 2 0) none (some text) (hexChar (c.toNat / 16) :: hexChar (c.toNat % 16) :: rest) = _
  rw [readString_digit (by decide) high, readString_lastDigit low, Nat.zero_mul, Nat.zero_add, unit]

theorem readString_escapeChar (c : Char) (text rest : List Char) :
    readString .plain none (some text) (escapeChar c ++ rest) = readString .plain none (some (c :: text)) rest := by
  rcases escapeChar_cases c with ⟨d, hd, hc, h⟩ | ⟨hc, h⟩ | ⟨hquote, hslash, hcontrol, h⟩
  · rw [h]
    exact readString_unescape hd hc
  · rw [h]
    exact readString_number hc text rest
  · rw [h]
    show (if c = '"' then _ else if c = '\\' then _ else if c.toNat < 0x20 then none
      else readString .plain none (addChar none (some text) c) rest) = _
    rw [if_neg hquote, if_neg hslash, if_neg hcontrol]
    rfl

/-- The characters of a string are read up to the quote behind them. -/
theorem readString_escaped (s text rest : List Char) :
    readString .plain none (some text) (s.flatMap escapeChar ++ '"' :: rest) =
      some (some (String.ofList (text.reverse ++ s)), rest) := by
  induction s generalizing text with
  | nil =>
    rw [List.append_nil]
    rfl
  | cons c s ih =>
    rw [List.flatMap_cons, List.append_assoc, readString_escapeChar, ih, List.reverse_cons, List.append_assoc]
    rfl

theorem readToken_printString (s : String) (rest : List Char) :
    readToken '"' (s.toList.flatMap escapeChar ++ '"' :: rest) = some (.string (some s), rest) := by
  show (readString .plain none (some []) (s.toList.flatMap escapeChar ++ '"' :: rest)).map _ = _
  rw [readString_escaped, List.reverse_nil, List.nil_append, String.ofList_toList]
  rfl

/-! ### Whole numbers -/

/-- A text does not go on with a value behind which it stands. -/
def Stops (rest : List Char) : Prop := ∀ c ∈ rest.head?, c = ',' ∨ c = ']' ∨ c = '}'

theorem Stops.nil : Stops [] := fun _ h => by cases h

theorem Stops.cons {c : Char} {rest : List Char} (h : c = ',' ∨ c = ']' ∨ c = '}') : Stops (c :: rest) := by
  rintro d hd
  cases hd
  exact h

theorem isDigit_printNat {n : Nat} {c : Char} (h : c ∈ printNat n) : c.isDigit = true :=
  Nat.isDigit_of_mem_toDigits (by decide) (by decide) h

theorem digitsValue_printNat (n : Nat) : digitsValue (printNat n) = n := by
  have hfold : (fun (n : Nat) (c : Char) => n * 10 + (c.toNat - 48)) = fun n c => 10 * n + (c.toNat - '0'.toNat) := by
    funext n c
    rw [Nat.mul_comm]
    rfl
  rw [digitsValue, hfold]
  exact Nat.ofDigitChars_ten_toDigits

theorem head?_printNat_append (n : Nat) (rest : List Char) : (printNat n ++ rest).head? = (printNat n).head? := by
  cases h : printNat n with
  | nil => exact absurd h Nat.toDigits_ne_nil
  | cons c r => rfl

theorem head?_printNat {n : Nat} (h : (printNat n).head? = some '0') : n = 0 := by
  induction n using Nat.base_induction 10 (by decide) with
  | single m hm =>
    rw [printNat, Nat.toDigits_of_lt_base hm] at h
    exact Nat.digitChar_eq_zero.mp (Option.some.inj h)
  | digit m k hk hm ih =>
    rw [printNat, ← Nat.toDigits_append_toDigits (by decide) hm hk] at h
    exact absurd (ih ((head?_printNat_append m _).symm.trans h)) (Nat.pos_iff_ne_zero.mp hm)

/-- Digits that were written are no number with a zero before it. -/
theorem isNumeral_printNat (n : Nat) :
    ((printNat n).isEmpty || ((printNat n).head? = some '0' && (printNat n).length > 1)) = false := by
  have hne : printNat n ≠ [] := Nat.toDigits_ne_nil
  rw [Bool.or_eq_false_iff]
  refine ⟨by simpa using hne, ?_⟩
  by_cases h : (printNat n).head? = some '0'
  · obtain rfl := head?_printNat h
    decide
  · simp [h]

section
variable {rest : List Char}

theorem takeWhile_digits (n : Nat) (h : Stops rest) : (printNat n ++ rest).takeWhile Char.isDigit = printNat n := by
  rw [List.takeWhile_append_of_pos fun c hc => isDigit_printNat hc]
  cases rest with
  | nil => exact List.append_nil _
  | cons c r =>
    have hc : c.isDigit = false := by rcases h c rfl with rfl | rfl | rfl <;> decide
    rw [List.takeWhile_cons_of_neg (by simp [hc]), List.append_nil]

theorem dropWhile_digits (n : Nat) (h : Stops rest) : (printNat n ++ rest).dropWhile Char.isDigit = rest := by
  rw [List.dropWhile_append_of_pos fun c hc => isDigit_printNat hc]
  cases rest with
  | nil => rfl
  | cons c r =>
    have hc : c.isDigit = false := by rcases h c rfl with rfl | rfl | rfl <;> decide
    rw [List.dropWhile_cons_of_neg (by simp [hc])]

/-- Behind a number that stops there is neither a fraction nor an exponent. -/
theorem readFraction_of_stops (h : Stops rest) : readFraction rest = some ([], rest) := by
  cases rest with
  | nil => rfl
  | cons c r => rcases h c rfl with rfl | rfl | rfl <;> rfl

theorem readExponent_of_stops (h : Stops rest) : readExponent rest = some (none, rest) := by
  cases rest with
  | nil => rfl
  | cons c r => rcases h c rfl with rfl | rfl | rfl <;> rfl

theorem ofInt?_val (w : Whole) : Whole.ofInt? w.val = some w := dif_pos ⟨w.ge_min, w.lt_max⟩

/-- A number without a sign is read as itself. -/
theorem readNumber_printNat (n : Nat) (h : Stops rest) (w : Whole) (hw : w.val = n) :
    readNumber (printNat n ++ rest) = some (some (.whole w), rest) := by
  have hsign : ((printNat n ++ rest).head? = some '-') = False := by
    rw [head?_printNat_append]
    refine eq_false fun hhead => ?_
    have := isDigit_printNat (List.mem_of_mem_head? hhead)
    exact absurd this (by decide)
  have hparts : Number.ofParts false (printNat n) [] none = some (.whole w) := by
    simp [Number.ofParts, digitsValue_printNat, ← hw, ofInt?_val]
  unfold readNumber
  simp only [hsign, decide_false, Bool.false_eq_true, if_false, takeWhile_digits n h, isNumeral_printNat,
    dropWhile_digits n h, readFraction_of_stops h, readExponent_of_stops h, Option.bind_eq_bind, Option.bind_some,
    hparts]
  rfl

theorem readNumber_negative (n : Nat) (h : Stops rest) (w : Whole) (hw : w.val = .negSucc n) :
    readNumber ('-' :: (printNat (n + 1) ++ rest)) = some (some (.whole w), rest) := by
  have hparts : Number.ofParts true (printNat (n + 1)) [] none = some (.whole w) := by
    have hval : (-(digitsValue (printNat (n + 1)) : Nat) : Int) = w.val := by
      rw [digitsValue_printNat, hw]
      omega
    have hne : w.val ≠ 0 := by omega
    simp [Number.ofParts, hval, ofInt?_val, hne]
  unfold readNumber
  simp only [List.head?_cons, decide_true, if_true, List.tail_cons, takeWhile_digits (n + 1) h, isNumeral_printNat,
    Bool.false_eq_true, if_false, dropWhile_digits (n + 1) h, readFraction_of_stops h, readExponent_of_stops h,
    Option.bind_eq_bind, Option.bind_some, hparts]
  rfl

end

end Muster.Json
