import LogAnomaly.Text.Digit

/-!
# Calendar days

* `Day`: a day of the proleptic Gregorian calendar, with astronomical years;
* `Day.rank`: the order of days, as an integer (`Day.rank_injective`);
* `Day.next?`, `Day.previous?`: the neighbours of a day;
* `Day.write`: the text of a day.
-/

namespace LogAnomaly

/-- A leap year of the Gregorian calendar. -/
def isLeapYear (year : Int) : Bool :=
  year % 4 == 0 && (year % 100 != 0 || year % 400 == 0)

/-- The number of days of a month. -/
def monthLength (year : Int) (month : Nat) : Nat :=
  match month with
  | 2 => if isLeapYear year then 29 else 28
  | 4 | 6 | 9 | 11 => 30
  | _ => 31

/-- The first year of the calendar. -/
def firstYear : Int := -262143

/-- The last year of the calendar. -/
def lastYear : Int := 262142

/-- A calendar day. -/
structure Day where
  year : Int
  month : Nat
  day : Nat
  year_mem : firstYear ≤ year ∧ year ≤ lastYear
  month_mem : 1 ≤ month ∧ month ≤ 12
  day_mem : 1 ≤ day ∧ day ≤ monthLength year month
  deriving DecidableEq, Repr

namespace Day

/-- The day with the given parts, if there is one. -/
def ofParts? (year : Int) (month day : Nat) : Option Day :=
  if hy : firstYear ≤ year ∧ year ≤ lastYear then
    if hm : 1 ≤ month ∧ month ≤ 12 then
      if hd : 1 ≤ day ∧ day ≤ monthLength year month then some ⟨year, month, day, hy, hm, hd⟩
      else none
    else none
  else none

/-- A number that grows from day to day. -/
def rank (d : Day) : Int := (d.year * 13 + d.month) * 32 + d.day

instance : LE Day := ⟨fun a b => a.rank ≤ b.rank⟩

instance : LT Day := ⟨fun a b => a.rank < b.rank⟩

instance (a b : Day) : Decidable (a ≤ b) := inferInstanceAs (Decidable (a.rank ≤ b.rank))

instance (a b : Day) : Decidable (a < b) := inferInstanceAs (Decidable (a.rank < b.rank))

/-- The later of two days. -/
def latest (a b : Day) : Day := if a < b then b else a

/-- The day after, if the calendar has one. -/
def next? (d : Day) : Option Day :=
  (ofParts? d.year d.month (d.day + 1)).or
    ((ofParts? d.year (d.month + 1) 1).or (ofParts? (d.year + 1) 1 1))

/-- The day before, if the calendar has one. -/
def previous? (d : Day) : Option Day :=
  (ofParts? d.year d.month (d.day - 1)).or
    ((ofParts? d.year (d.month - 1) (monthLength d.year (d.month - 1))).or
      (ofParts? (d.year - 1) 12 31))

/-- A number to a least count of digits, zeros in front. -/
def padded (count n : Nat) : List Char :=
  let digits := Nat.toDigits 10 n
  List.replicate (count - digits.length) '0' ++ digits

/-- A year: four digits, and a sign if it has more or is negative. -/
def yearText (year : Int) : List Char :=
  if 0 ≤ year && year ≤ 9999 then padded 4 year.toNat
  else (if year < 0 then '-' else '+') :: padded 4 year.natAbs

/-- Year, month and day with hyphens between them. -/
def text (d : Day) : List Char :=
  yearText d.year ++ '-' :: padded 2 d.month ++ '-' :: padded 2 d.day

/-- The text of a day. -/
def write (d : Day) : String := String.ofList d.text

theorem monthLength_le (year : Int) (month : Nat) : monthLength year month ≤ 31 := by
  unfold monthLength
  split
  · split <;> decide
  all_goals decide

/-- Days of the same rank are the same. -/
theorem rank_injective : ∀ {a b : Day}, a.rank = b.rank → a = b := by
  rintro ⟨ay, am, ad, hy, hm, hd⟩ ⟨bY, bm, bd, hy', hm', hd'⟩ h
  have := monthLength_le ay am
  have := monthLength_le bY bm
  simp only [rank] at h
  obtain rfl : ay = bY := by omega
  obtain rfl : am = bm := by omega
  obtain rfl : ad = bd := by omega
  rfl

theorem ofParts?_self (d : Day) : ofParts? d.year d.month d.day = some d := by
  obtain ⟨y, m, dd, hy, hm, hd⟩ := d
  simp only [ofParts?]
  rw [dif_pos hy, dif_pos hm, dif_pos hd]

end Day

end LogAnomaly
