import Mathlib.Data.Nat.Basic
import Muster.Proofs.Json.Lexing
import Muster.Time.Timestamp

/-! # Points in time, read back

A point in time is read from its own text if its day exists and its year is one that points in time may have. Every
point that is counted from the beginning of 1970 has a day that exists. -/

namespace Muster

/-! ### Days -/

namespace Date

/-- The number of days of some months on. -/
def monthsLength : Nat → Int → Nat → Nat
  | 0, _, _ => 0
  | months + 1, year, month =>
    monthLength year month +
      if month < 12 then monthsLength months year (month + 1) else monthsLength months (year + 1) 1

theorem monthLength_congr {a b : Int} (h : a % 400 = b % 400) (month : Nat) :
    monthLength a month = monthLength b month := by
  have hleap : isLeap a = isLeap b := by
    have h4 : a % 4 = b % 4 := by omega
    have h100 : a % 100 = b % 100 := by omega
    unfold isLeap
    rw [h4, h100, h]
  unfold monthLength
  rw [hleap]

/-- Months repeat after 400 years. -/
theorem monthsLength_congr {a b : Int} (h : a % 400 = b % 400) (months month : Nat) :
    monthsLength months a month = monthsLength months b month := by
  induction months generalizing a b month with
  | zero => rfl
  | succ months ih =>
    have hnext : (a + 1) % 400 = (b + 1) % 400 := by omega
    unfold monthsLength
    rw [monthLength_congr h, ih h, ih hnext]

/-- A day that some months have exists. -/
theorem isValid_advanceMonths {months : Nat} {year : Int} {month days : Nat} (hmonth : 1 ≤ month ∧ month ≤ 12)
    (h : days < monthsLength months year month) : (advanceMonths months year month days).isValid = true := by
  induction months generalizing year month days with
  | zero => exact absurd h (Nat.not_lt_zero days)
  | succ months ih =>
    unfold advanceMonths
    dsimp only
    unfold monthsLength at h
    by_cases hday : days < monthLength year month
    · rw [if_pos hday]
      unfold isValid
      simp only [Bool.and_eq_true, decide_eq_true_eq]
      omega
    · rw [if_neg hday]
      by_cases hlast : month < 12
      · rw [if_pos hlast] at h ⊢
        exact ih (by omega) (by omega)
      · rw [if_neg hlast] at h ⊢
        exact ih (by omega) (by omega)

theorem isValid_ofDays (days : Nat) : (ofDays days).isValid = true := by
  have hcycle : monthsLength 4800 1970 1 = 146097 := by decide +kernel
  have hsame : (1970 + 400 * ((days / 146097 : Nat) : Int)) % 400 = 1970 % 400 := by omega
  refine isValid_advanceMonths (by decide) ?_
  rw [monthsLength_congr hsame, hcycle]
  exact Nat.mod_lt days (by decide)

theorem bounds_of_isValid {d : Date} (h : d.isValid = true) : d.month < 100 ∧ d.day < 100 := by
  unfold isValid at h
  simp only [Bool.and_eq_true, decide_eq_true_eq] at h
  have hlength : monthLength d.year d.month ≤ 31 := by
    unfold monthLength
    split
    · split <;> omega
    · split <;> omega
  omega

end Date

/-! ### Numbers -/

section
open Json Duration

variable {n width : Nat} {c : Char} {ds rest : List Char}

theorem isDigit_padded (h : c ∈ padded width n) : c.isDigit = true := by
  unfold padded at h
  rcases List.mem_append.mp h with h | h
  · rw [List.eq_of_mem_replicate h]
    rfl
  · exact isDigit_printNat h

theorem length_padded (hwidth : 0 < width) (h : n < 10 ^ width) : (padded width n).length = width := by
  have hlength : (printNat n).length ≤ width := (Nat.length_toDigits_le_iff (by decide) hwidth).mpr h
  unfold padded
  dsimp only
  rw [List.length_append, List.length_replicate]
  omega

theorem padded_ne_nil (width n : Nat) : padded width n ≠ [] :=
  List.append_ne_nil_of_right_ne_nil _ Nat.toDigits_ne_nil

theorem digitsValue_padded (width n : Nat) : digitsValue (padded width n) = n := by
  have hzeros (k : Nat) : (List.replicate k '0').foldl (fun n c => n * 10 + (c.toNat - 48)) 0 = 0 := by
    induction k with
    | zero => rfl
    | succ k ih => exact ih
  unfold padded digitsValue
  rw [List.foldl_append, hzeros]
  exact digitsValue_printNat n

theorem digitsValue_zeros (ds : List Char) (k : Nat) :
    digitsValue (ds ++ List.replicate k '0') = digitsValue ds * 10 ^ k := by
  induction k with
  | zero => simp
  | succ k ih =>
    have hlast : digitsValue (ds ++ List.replicate k '0' ++ ['0']) = digitsValue (ds ++ List.replicate k '0') * 10 := by
      unfold digitsValue
      rw [List.foldl_append]
      rfl
    rw [List.replicate_succ', ← List.append_assoc, hlast, ih, Nat.pow_succ, Nat.mul_assoc]

theorem trimStart_of_digits (hdigits : ∀ c ∈ ds, c.isDigit = true) (hne : ds ≠ []) (rest : List Char) :
    Text.trimStart (ds ++ rest) = ds ++ rest := by
  obtain ⟨c, r, rfl⟩ := List.exists_cons_of_ne_nil hne
  have hc := hdigits c List.mem_cons_self
  have hblank : Text.isBlank c = false := by
    have hrange : 48 ≤ c.toNat ∧ c.toNat ≤ 57 := by
      simpa [Char.isDigit, UInt32.le_iff_toNat_le] using hc
    unfold Text.isBlank
    dsimp only
    simp only [Bool.or_eq_false_iff, Bool.and_eq_false_iff, decide_eq_false_iff_not]
    omega
  exact List.dropWhile_cons_of_neg (by simp [hblank])

/-- Digits are read as their number where no others follow them, or no more are asked for. -/
theorem readDigits_append (hdigits : ∀ c ∈ ds, c.isDigit = true) (hne : ds ≠ []) (hlength : ds.length ≤ width)
    (hrest : (rest.take (width - ds.length)).takeWhile Char.isDigit = []) :
    Timestamp.readDigits width (ds ++ rest) = some (digitsValue ds, rest) := by
  have htaken : ((ds ++ rest).take width).takeWhile Char.isDigit = ds := by
    rw [List.take_append, List.take_of_length_le hlength, List.takeWhile_append_of_pos hdigits, hrest, List.append_nil]
  unfold Timestamp.readDigits
  dsimp only
  rw [htaken, if_neg (by simpa using hne), List.drop_left]
  rfl

theorem readPart_padded (h : n < 100) (rest : List Char) :
    Timestamp.readPart (padded 2 n ++ rest) = some (n, rest) := by
  have hlength : (padded 2 n).length = 2 := length_padded (by decide) h
  unfold Timestamp.readPart
  rw [trimStart_of_digits (fun c => isDigit_padded) (padded_ne_nil 2 n),
    readDigits_append (fun c => isDigit_padded) (padded_ne_nil 2 n) (Nat.le_of_eq hlength) (by rw [hlength]; rfl),
    digitsValue_padded]

theorem readYear_printYear (y : Int) (rest : List Char) :
    Timestamp.readYear (Timestamp.printYear y ++ '-' :: rest) = some (y, '-' :: rest) := by
  -- Behind a sign all digits count, and they end at the next sign.
  have hsigned (k : Nat) : Timestamp.readDigits (padded 4 k ++ '-' :: rest).length (padded 4 k ++ '-' :: rest) =
      some (k, '-' :: rest) := by
    have hstop (m : Nat) : (('-' :: rest).take m).takeWhile Char.isDigit = [] := by
      cases m with
      | zero => rfl
      | succ m => rfl
    rw [readDigits_append (fun c => isDigit_padded) (padded_ne_nil 4 k) (by simp) (hstop _), digitsValue_padded]
  unfold Timestamp.printYear
  by_cases hplain : 0 ≤ y ∧ y ≤ 9999
  · have hlength : (padded 4 y.toNat).length = 4 := length_padded (by decide) (by omega)
    have hvalue : ((y.toNat : Nat) : Int) = y := by omega
    have hread : Timestamp.readDigits 4 (padded 4 y.toNat ++ '-' :: rest) = some (y.toNat, '-' :: rest) := by
      rw [readDigits_append (fun c => isDigit_padded) (padded_ne_nil 4 _) (Nat.le_of_eq hlength) (by rw [hlength]; rfl),
        digitsValue_padded]
    obtain ⟨c, r, hdigits⟩ := List.exists_cons_of_ne_nil (padded_ne_nil 4 y.toNat)
    have hc : c.isDigit = true := isDigit_padded (hdigits ▸ List.mem_cons_self)
    rw [if_pos hplain]
    unfold Timestamp.readYear
    rw [trimStart_of_digits (fun c => isDigit_padded) (padded_ne_nil 4 _)]
    split
    · rename_i heq
      rw [hdigits] at heq
      rw [(List.cons.inj heq).1] at hc
      exact absurd hc (by decide)
    · rename_i heq
      rw [hdigits] at heq
      rw [(List.cons.inj heq).1] at hc
      exact absurd hc (by decide)
    · rw [hread]
      exact congrArg (fun z => some (z, '-' :: rest)) hvalue
  · rw [if_neg hplain]
    by_cases hneg : y < 0
    · have hvalue : -((y.natAbs : Nat) : Int) = y := by omega
      have hread (s : List Char) : Timestamp.readYear ('-' :: s) =
          (Timestamp.readDigits s.length s).map fun x => (-(x.1 : Int), x.2) := rfl
      rw [if_pos hneg, List.cons_append, hread, hsigned]
      exact congrArg (fun z => some (z, '-' :: rest)) hvalue
    · have hvalue : ((y.natAbs : Nat) : Int) = y := by omega
      have hread (s : List Char) : Timestamp.readYear ('+' :: s) =
          (Timestamp.readDigits s.length s).map fun x => ((x.1 : Int), x.2) := rfl
      rw [if_neg hneg, List.cons_append, hread, hsigned]
      exact congrArg (fun z => some (z, '-' :: rest)) hvalue

/-- The fraction that some digits write counts as many more zeros behind them as make nine. -/
theorem readFraction_padded {width : Nat} (hwidth : 0 < width ∧ width ≤ 9) (h : n < 10 ^ width) :
    Timestamp.readFraction ('.' :: padded width n ++ ['Z']) = some (n * 10 ^ (9 - width), ['Z']) := by
  have hlength : (padded width n).length = width := length_padded hwidth.1 h
  have htaken : (padded width n ++ ['Z']).takeWhile Char.isDigit = padded width n := by
    rw [List.takeWhile_append_of_pos fun c => isDigit_padded]
    exact List.append_nil _
  have hdropped : (padded width n ++ ['Z']).dropWhile Char.isDigit = ['Z'] := by
    rw [List.dropWhile_append_of_pos fun c => isDigit_padded]
    rfl
  have hnine : (padded width n ++ List.replicate 9 '0').take 9 = padded width n ++ List.replicate (9 - width) '0' := by
    rw [List.take_append, List.take_of_length_le (by omega), hlength, List.take_replicate]
    congr 2
    omega
  have hread (s : List Char) : Timestamp.readFraction ('.' :: s) = if (s.takeWhile Char.isDigit).isEmpty then none else
      some (digitsValue ((s.takeWhile Char.isDigit ++ List.replicate 9 '0').take 9), s.dropWhile Char.isDigit) := rfl
  rw [List.cons_append, hread, htaken, if_neg (by simpa using padded_ne_nil width n), hnine, digitsValue_zeros,
    digitsValue_padded, hdropped]

end

namespace Timestamp

open Duration

theorem readFraction_printFraction {nanos : Nat} (h : nanos < 1000000000) :
    readFraction (printFraction nanos ++ ['Z']) = some (nanos, ['Z']) := by
  unfold printFraction
  by_cases hzero : nanos = 0
  · rw [if_pos hzero, hzero]
    rfl
  · rw [if_neg hzero]
    by_cases hmillis : nanos % 1000000 = 0
    · rw [if_pos hmillis, readFraction_padded (by decide) (by omega)]
      congr 2
      omega
    · rw [if_neg hmillis]
      by_cases hmicros : nanos % 1000 = 0
      · rw [if_pos hmicros, readFraction_padded (by decide) (by omega)]
        congr 2
        omega
      · rw [if_neg hmicros, readFraction_padded (by decide) (by omega)]
        congr 2
        omega

theorem bind_of_some {α β : Type} {x : Option α} {f : α → Option β} {a : α} {y : Option β} (hx : x = some a)
    (hf : f a = y) : (x >>= f) = y := by
  rw [hx]
  exact hf

/-- A point in time on a day that exists, in a year that points in time may have. Of a minute only the last second may
be a leap second. -/
structure IsInstant (t : Timestamp) : Prop where
  date : t.date.isValid = true
  year : hasYear t.date.year = true
  minute : t.minute < 1440
  second : t.second < 60
  nanos : t.nanos < 1000000000 ∨ t.second = 59 ∧ t.nanos < 2000000000

variable {t : Timestamp}

/-- The second and the nanoseconds in the text of a point in time; a leap second is the second 60 there. -/
theorem IsInstant.print_eq (h : t.IsInstant) : ∃ second nanos,
    t.print = printYear t.date.year ++ '-' :: (padded 2 t.date.month ++ '-' :: (padded 2 t.date.day ++
      'T' :: (padded 2 (t.minute / 60) ++ ':' :: (padded 2 (t.minute % 60) ++ ':' :: (padded 2 second ++
        (printFraction nanos ++ ['Z'])))))) ∧
    second ≤ 60 ∧ nanos < 1000000000 ∧
    min second 59 = t.second ∧ (if second = 60 then nanos + 1000000000 else nanos) = t.nanos := by
  have hsecond := h.second
  have hnanos := h.nanos
  by_cases hleap : 1000000000 ≤ t.nanos
  · refine ⟨t.second + 1, t.nanos - 1000000000, ?_, by omega, by omega, by omega, by rw [if_pos] <;> omega⟩
    unfold print
    dsimp only
    rw [if_pos hleap, if_pos hleap]
    simp only [List.append_assoc, List.cons_append]
  · refine ⟨t.second, t.nanos, ?_, by omega, by omega, by omega, if_neg (by omega)⟩
    unfold print
    dsimp only
    rw [if_neg hleap, if_neg hleap]
    simp only [List.append_assoc, List.cons_append]

/-- A point in time is read from its text. -/
theorem read?_print (h : t.IsInstant) : read? t.print = some t := by
  obtain ⟨hmonth, hday⟩ := Date.bounds_of_isValid h.date
  obtain ⟨second, nanos, hprint, hsecond, hnanos, hlast, hback⟩ := h.print_eq
  have hhour : t.minute / 60 < 24 := by
    have := h.minute
    omega
  have hsixty : t.minute % 60 < 60 := Nat.mod_lt _ (by decide)
  have hdash (s : List Char) : readMark '-' ('-' :: s) = some s := rfl
  have hcolon (s : List Char) : readMark ':' (':' :: s) = some s := rfl
  rw [hprint]
  unfold read?
  refine bind_of_some (readYear_printYear _ _) ?_
  refine bind_of_some (hdash _) ?_
  refine bind_of_some (readPart_padded hmonth _) ?_
  refine bind_of_some (hdash _) ?_
  refine bind_of_some (readPart_padded hday _) ?_
  refine bind_of_some rfl ?_
  refine bind_of_some (readPart_padded (by omega) _) ?_
  refine bind_of_some (hcolon _) ?_
  refine bind_of_some (readPart_padded (by omega) _) ?_
  refine bind_of_some (hcolon _) ?_
  refine bind_of_some (readPart_padded (by omega) _) ?_
  refine bind_of_some (readFraction_printFraction hnanos) ?_
  refine bind_of_some rfl ?_
  have hlocal : ofLocal ⟨t.date.year, t.date.month, t.date.day⟩ (t.minute / 60 * 60 + t.minute % 60) 0 (min second 59)
      (if second = 60 then nanos + 1000000000 else nanos) = t := by
    have hminute : t.minute / 60 * 60 + t.minute % 60 = t.minute := Nat.div_add_mod' t.minute 60
    have hwithin : ¬ (t.minute : Int) - 0 < 0 ∧ ¬ 1440 ≤ (t.minute : Int) - 0 := by
      have := h.minute
      omega
    have hsame : ((t.minute : Int) - 0).toNat = t.minute := by omega
    unfold ofLocal
    dsimp only
    rw [hminute, if_neg hwithin.1, if_neg hwithin.2, hsame, hlast, hback]
  dsimp only
  rw [hlocal, if_pos]
  · rfl
  · simp only [Bool.and_eq_true, decide_eq_true_eq]
    exact ⟨⟨⟨⟨⟨⟨rfl, h.date⟩, h.year⟩, hhour⟩, hsixty⟩, hsecond⟩, h.year⟩

/-- What is counted in nanoseconds is a point in time, if its year is one that points in time may have. -/
theorem isInstant_ofUnixNanos {n : Nat} (h : hasYear (ofUnixNanos n).date.year = true) :
    (ofUnixNanos n).IsInstant where
  date := Date.isValid_ofDays _
  year := h
  minute := by
    show n / 1000000000 % 86400 / 60 < 1440
    omega
  second := Nat.mod_lt _ (by decide)
  nanos := .inl (Nat.mod_lt _ (by decide))

end Timestamp

end Muster
