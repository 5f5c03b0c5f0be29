import LogAnomaly.Proofs.Text.Digits
import LogAnomaly.Time.Reader
import Mathlib.Algebra.Group.Nat.Defs

/-!
# Times that read back

* `TimeReader.number_padded`: a number with zeros in front, up to what is no digit;
* `TimeReader.looseDay_text`, `Day.parse?_write`: a day is read as it was written, whatever its year;
* `Instant.parse?_write`: and so is an instant, whatever its fraction of a second, leap seconds too.
-/

namespace LogAnomaly

open LogAnomaly.Text

namespace TimeReader

variable {digits rest : List Char}

/-! ## Numbers and marks -/

theorem isAsciiDigit_padded {count n : Nat} : ∀ c ∈ Day.padded count n, isAsciiDigit c = true := by
  intro c hc
  rcases List.mem_append.1 hc with hzero | hdigit
  · rw [List.eq_of_mem_replicate hzero]
    rfl
  · exact isAsciiDigit_of_mem_toDigits hdigit

theorem digitsValue_padded (count n : Nat) : digitsValue (Day.padded count n) = n :=
  (digitsValue_zeros_append ..).trans (digitsValue_toDigits n)

theorem padded_ne_nil (count n : Nat) : Day.padded count n ≠ [] :=
  List.append_ne_nil_of_right_ne_nil _ Nat.toDigits_ne_nil

theorem length_padded {count n : Nat} (hcount : 0 < count) (h : n < 10 ^ count) :
    (Day.padded count n).length = count := by
  have hdigits := (Nat.length_toDigits_le_iff (by decide) hcount).2 h
  rw [Day.padded, List.length_append, List.length_replicate]
  omega

/-- As many digits as there are, if they are not too many. -/
theorem number_append {least most : Nat} (hdigits : ∀ c ∈ digits, isAsciiDigit c = true)
    (hleast : least ≤ digits.length) (hmost : digits.length ≤ most)
    (hrest : NoDigit rest) :
    number least most (digits ++ rest) = some (digitsValue digits, rest) := by
  have htake : ((digits ++ rest).take most).takeWhile isAsciiDigit = digits := by
    rw [List.take_append, List.take_of_length_le hmost]
    refine takeWhile_digits hdigits fun c hc => hrest c ?_
    rw [List.head?_take] at hc
    split at hc
    · cases hc
    · exact hc
  rw [number, htake, if_neg (Nat.not_lt.2 hleast), List.drop_left]

/-- A number with zeros in front. -/
theorem number_padded {count n most : Nat} (hmost : (Day.padded count n).length ≤ most)
    (hrest : NoDigit rest) :
    number 1 most (Day.padded count n ++ rest) = some (n, rest) := by
  rw [number_append isAsciiDigit_padded (List.length_pos_iff.2 (padded_ne_nil count n)) hmost hrest,
    digitsValue_padded]

/-- Two digits. -/
theorem number_two {n : Nat} (h : n < 100) (hrest : NoDigit rest) :
    number 1 2 (Day.padded 2 n ++ rest) = some (n, rest) :=
  number_padded (Nat.le_of_eq (length_padded (by decide) h)) hrest

theorem isBlank_of_digit {c : Char} (h : isAsciiDigit c = true) : isBlank c = false := by
  simp only [isAsciiDigit, Bool.and_eq_true, decide_eq_true_eq] at h
  simp only [isBlank, covers, blankRanges, List.any_cons, List.any_nil, Bool.or_false,
    Bool.or_eq_false_iff, Bool.and_eq_false_iff, decide_eq_false_iff_not]
  omega

/-- There are no blanks in front of a number. -/
theorem skipBlanks_padded (count n : Nat) (rest : List Char) :
    skipBlanks (Day.padded count n ++ rest) = Day.padded count n ++ rest := by
  obtain ⟨c, tail, hc⟩ := List.exists_cons_of_ne_nil (padded_ne_nil count n)
  have hdigit : isAsciiDigit c = true :=
    isAsciiDigit_padded c (by rw [hc]; exact List.mem_cons_self)
  rw [hc, List.cons_append, skipBlanks, List.dropWhile_cons, isBlank_of_digit hdigit]
  rfl

theorem spacedMark_padded {c : Char} (h : isBlank c = false) (count n : Nat) (rest : List Char) :
    spacedMark c (c :: (Day.padded count n ++ rest)) = some (Day.padded count n ++ rest) := by
  have hskip : skipBlanks (c :: (Day.padded count n ++ rest)) =
      c :: (Day.padded count n ++ rest) := by
    rw [skipBlanks, List.dropWhile_cons, h]
    rfl
  rw [spacedMark, hskip, mark, if_pos rfl, Option.map_some, skipBlanks_padded]

/-! ## Days -/

/-- Only a year with a sign starts with one. -/
theorem year_unsigned {s : List Char} (h : ∀ c ∈ s.head?, isAsciiDigit c = true) :
    year s = (number 1 4 s).map fun (n, after) => ((n : Int), after) := by
  have hne : ∀ c ∈ ['-', '+'], ∀ tail, s ≠ c :: tail := by
    rintro c hc tail rfl
    have hdigit := h c rfl
    simp only [List.mem_cons, List.not_mem_nil, or_false] at hc
    rcases hc with rfl | rfl <;> cases hdigit
  rw [year]
  all_goals exact fun rest => hne _ (by simp) _

/-- A year is read as it was written. -/
theorem year_text (y : Int) (hrest : NoDigit rest) :
    year (Day.yearText y ++ rest) = some (y, rest) := by
  rw [Day.yearText]
  split
  · rename_i hfour
    simp only [Bool.and_eq_true, decide_eq_true_eq] at hfour
    have hlength : (Day.padded 4 y.toNat).length ≤ 4 :=
      Nat.le_of_eq (length_padded (by decide) (by omega))
    obtain ⟨c, tail, hc⟩ := List.exists_cons_of_ne_nil (padded_ne_nil 4 y.toNat)
    have hhead : ∀ c ∈ (Day.padded 4 y.toNat ++ rest).head?, isAsciiDigit c = true := by
      rw [hc]
      intro d hd
      obtain rfl := Option.some.inj hd
      exact isAsciiDigit_padded _ (by rw [hc]; exact List.mem_cons_self)
    rw [year_unsigned hhead, number_padded hlength hrest, Option.map_some]
    simp only [Int.toNat_of_nonneg hfour.1]
  · have hlength : (Day.padded 4 y.natAbs).length ≤ (Day.padded 4 y.natAbs ++ rest).length := by
      rw [List.length_append]
      omega
    split
    · rw [List.cons_append, year, number_padded hlength hrest, Option.map_some]
      simp only [Option.some.injEq, Prod.mk.injEq, and_true]
      omega
    · rename_i hnonneg
      rw [List.cons_append, year, number_padded hlength hrest, Option.map_some]
      simp only [Option.some.injEq, Prod.mk.injEq, and_true]
      omega

theorem skipBlanks_year (y : Int) (rest : List Char) :
    skipBlanks (Day.yearText y ++ rest) = Day.yearText y ++ rest := by
  rw [Day.yearText]
  split
  · exact skipBlanks_padded ..
  · split <;> rfl

/-- A day is read as it was written, up to what is no digit. -/
theorem looseDay_text (d : Day) (hrest : NoDigit rest) :
    looseDay (d.text ++ rest) = some (d, rest) := by
  have hmonth : d.month < 100 := by
    have := d.month_mem
    omega
  have hday : d.day < 100 := by
    have := d.day_mem
    have := Day.monthLength_le d.year d.month
    omega
  have hhyphen : ∀ s : List Char, NoDigit ('-' :: s) := noDigit_cons rfl
  simp only [Day.text, List.append_assoc, List.cons_append]
  simp only [looseDay, skipBlanks_year, year_text _ (hhyphen _), Option.bind_eq_bind,
    Option.bind_some, spacedMark_padded (c := '-') rfl, number_two hmonth (hhyphen _),
    number_two hday hrest, Day.ofParts?_self]

/-! ## Times -/

/-- A fraction with the given number of digits. -/
theorem optionalFraction_padded {count n : Nat} (hcount : 0 < count) (hmost : count ≤ 9)
    (h : n < 10 ^ count) (hrest : NoDigit rest) :
    optionalFraction ('.' :: (Day.padded count n ++ rest)) = some (n * 10 ^ (9 - count), rest) := by
  have hlength := length_padded hcount h
  have hdrop : ([] ++ rest).dropWhile isAsciiDigit = rest := dropWhile_digits (by simp) hrest
  rw [List.nil_append] at hdrop
  rw [optionalFraction, fraction, number_padded (Nat.le_trans (Nat.le_of_eq hlength) hmost) hrest]
  simp only [Option.bind_eq_bind, Option.bind_some, List.length_append, Nat.add_sub_cancel, hlength,
    hdrop, Nat.pow_eq]

/-- A fraction of a second is read as it was written, however many digits it has. -/
theorem optionalFraction_text {nano : Nat} (h : nano < 1000000000) (rest : List Char) :
    optionalFraction (Instant.fractionText nano ++ 'Z' :: rest) = some (nano, 'Z' :: rest) := by
  have hrest : NoDigit ('Z' :: rest) := noDigit_cons rfl rest
  rw [Instant.fractionText]
  split
  · rename_i hzero
    rw [hzero]
    rfl
  · split
    · rw [List.cons_append, optionalFraction_padded (by decide) (by decide) (by omega) hrest]
      simp only [Option.some.injEq, Prod.mk.injEq, and_true]
      omega
    · split
      · rw [List.cons_append, optionalFraction_padded (by decide) (by decide) (by omega) hrest]
        simp only [Option.some.injEq, Prod.mk.injEq, and_true]
        omega
      · rw [List.cons_append, optionalFraction_padded (by decide) (by decide) h hrest, Nat.sub_self,
          Nat.pow_zero, Nat.mul_one]

end TimeReader

open TimeReader

/-- A day is read as it was written. -/
theorem Day.parse?_write (d : Day) : Day.parse? d.write = some d := by
  have hread : looseDay (d.text ++ []) = some (d, []) := looseDay_text d noDigit_nil
  rw [List.append_nil] at hread
  rw [Day.parse?, Day.write, String.toList_ofList, hread]
  rfl

namespace Instant

/-- What the clock shows at an instant. -/
def clock (t : Instant) : ClockTime :=
  ⟨t.second / 3600, t.second / 60 % 60, t.second % 60 + t.nano / 1000000000, t.nano % 1000000000⟩

/-- The clock as it is written. -/
def ClockTime.text (time : ClockTime) (rest : List Char) : List Char :=
  Day.padded 2 time.hour ++ ':' :: (Day.padded 2 time.minute ++ ':' :: (Day.padded 2 time.second ++
    (fractionText time.nano ++ 'Z' :: rest)))

theorem text_eq (t : Instant) : t.text = t.day.text ++ 'T' :: t.clock.text [] := by
  simp only [text, clock, ClockTime.text, List.append_assoc, List.cons_append]

theorem noDigit_fractionText (nano : Nat) (rest : List Char) :
    NoDigit (fractionText nano ++ 'Z' :: rest) := by
  rw [fractionText]
  split
  · exact noDigit_cons rfl _
  · split
    · exact noDigit_cons rfl _
    · split <;> exact noDigit_cons rfl _

/-- The time of day is read as it was written. -/
theorem looseTime_text (t : Instant) (rest : List Char) :
    looseTime (t.clock.text rest) = some (t.clock, 'Z' :: rest) := by
  have hcolon : ∀ s : List Char, NoDigit (':' :: s) := noDigit_cons rfl
  have hsecond := t.second_lt
  have hhour : t.clock.hour < 100 := by
    show t.second / 3600 < 100
    omega
  have hminute : t.clock.minute < 100 := by
    show t.second / 60 % 60 < 100
    omega
  have hshown : t.clock.second < 100 := by
    have := t.nano_lt
    show t.second % 60 + t.nano / 1000000000 < 100
    omega
  have hnano : t.clock.nano < 1000000000 := Nat.mod_lt _ (by decide)
  have hskip : skipBlanks ('Z' :: rest) = 'Z' :: rest := rfl
  simp only [looseTime, ClockTime.text, skipBlanks_padded, number_two hhour (hcolon _),
    Option.bind_eq_bind, Option.bind_some, spacedMark_padded (c := ':') rfl,
    number_two hminute (hcolon _), number_two hshown (noDigit_fractionText _ _),
    optionalFraction_text hnano, hskip]

/-- The clock of UTC tells the instant, leap seconds too. -/
theorem sinceMidnight?_clock (t : Instant) :
    t.clock.sinceMidnight? = some (t.second, t.nano) := by
  have hsecond := t.second_lt
  have hnano := t.nano_lt
  have hvalid : (decide (t.second / 3600 < 24) && decide (t.second / 60 % 60 < 60) &&
      decide (t.second % 60 + t.nano / 1000000000 ≤ 60)) = true := by
    simp only [Bool.and_eq_true, decide_eq_true_eq]
    omega
  have hhour : t.second / 60 / 60 = t.second / 3600 := Nat.div_div_eq_div_mul ..
  rw [clock, ClockTime.sinceMidnight?, if_pos hvalid]
  dsimp only
  split
  all_goals
    simp only [Option.some.injEq, Prod.mk.injEq]
    omega

theorem ofLocal?_clock (t : Instant) : ofLocal? t.day t.clock 0 = some t := by
  have hsecond := t.second_lt
  have hnear : ¬ 1440 ≤ (0 : Int).natAbs := by decide
  have hutc : (t.second : Int) - 60 * 0 = t.second := by omega
  have hearly : ¬ (t.second : Int) < 0 := by omega
  have hlate : ¬ 86400 ≤ (t.second : Int) := by omega
  have hparts : ofParts? t.day t.second t.nano = some t := by
    rw [ofParts?, dif_pos t.second_lt, dif_pos t.nano_lt]
  simp only [ofLocal?, if_neg hnear, sinceMidnight?_clock, Option.bind_eq_bind, Option.bind_some,
    hutc, if_neg hearly, if_neg hlate, Int.toNat_natCast, hparts]

/-- An instant is read as it was written. -/
theorem parse?_write (t : Instant) : Instant.parse? t.write = some t := by
  have hday := looseDay_text t.day (noDigit_cons (c := 'T') rfl (t.clock.text []))
  have hsep : separator ('T' :: t.clock.text []) = some (t.clock.text []) := rfl
  have hoffset : (utcName ['Z']).or (offset colonsOrBlanks ['Z']) = some (0, []) := rfl
  have hend : skipBlanks [] = [] := rfl
  rw [Instant.parse?, write, String.toList_ofList, text_eq, hday]
  simp only [Option.bind_eq_bind, Option.bind_some, hsep, looseTime_text, hoffset, hend,
    List.isEmpty_nil, if_true, ofLocal?_clock]

end Instant

end LogAnomaly
