import LogAnomaly.Time.Instant
import LogAnomaly.Text.Blank

/-!
# Reading days and instants

* `Day.parse?`: year, month and day, with hyphens and perhaps blanks between them;
* `Instant.parseStrict?`: RFC 3339, a blank allowed for the `T`;
* `Instant.parse?`: the looser form that documents may use: years with a sign, single digits,
  blanks between the parts.

The functions on lists take what is left of a text and give what they read with the rest.
-/

namespace LogAnomaly

open LogAnomaly.Text

namespace TimeReader

/-- An integer of `least` to `most` digits, as many as there are. -/
def number (least most : Nat) (s : List Char) : Option (Nat × List Char) :=
  let digits := (s.take most).takeWhile isAsciiDigit
  if digits.length < least then none else some (digitsValue digits, s.drop digits.length)

/-- One given character. -/
def mark (c : Char) : List Char → Option (List Char)
  | [] => none
  | d :: rest => if d = c then some rest else none

/-- Drops the blanks in front. -/
def skipBlanks (s : List Char) : List Char := s.dropWhile isBlank

/-- Nanoseconds from the digits of a fraction; those after the ninth are dropped. -/
def fraction (s : List Char) : Option (Nat × List Char) := do
  let (value, rest) ← number 1 9 s
  let count := s.length - rest.length
  some (value * Nat.pow 10 (9 - count), rest.dropWhile isAsciiDigit)

/-- The fraction of a second, if there is one. -/
def optionalFraction : List Char → Option (Nat × List Char)
  | '.' :: rest => fraction rest
  | rest => some (0, rest)

/-- The separator of date and time. -/
def separator : List Char → Option (List Char)
  | c :: rest => if c == 'T' || c == 't' || c == ' ' then some rest else none
  | [] => none

/-- Two digits. -/
def twoDigits : List Char → Option (Nat × List Char)
  | a :: b :: rest =>
    if isAsciiDigit a && isAsciiDigit b then some (digitsValue [a, b], rest) else none
  | _ => none

/-- An offset from UTC in minutes. `between` passes what stands between hours and minutes. -/
def offset (between : List Char → Option (List Char)) : List Char → Option (Int × List Char)
  | [] => none
  | c :: rest =>
    if c == 'Z' || c == 'z' then some (0, rest)
    else if c == '+' || c == '-' || c == '−' then do
      let (hours, rest) ← twoDigits rest
      let rest ← between rest
      let (minutes, rest) ← twoDigits rest
      if 60 ≤ minutes then none
      let total : Int := 60 * hours + minutes
      some (if c == '+' then total else -total, rest)
    else none

/-- A year: any number of digits after a sign, else at most four. -/
def year : List Char → Option (Int × List Char)
  | '-' :: rest => (number 1 rest.length rest).map fun (n, after) => (-(n : Int), after)
  | '+' :: rest => (number 1 rest.length rest).map fun (n, after) => ((n : Int), after)
  | s => (number 1 4 s).map fun (n, after) => ((n : Int), after)

/-- A mark with blanks around it. -/
def spacedMark (c : Char) (s : List Char) : Option (List Char) :=
  (mark c (skipBlanks s)).map skipBlanks

/-- A day with blanks between its parts. -/
def looseDay (s : List Char) : Option (Day × List Char) := do
  let (y, s) ← year (skipBlanks s)
  let s ← spacedMark '-' s
  let (m, s) ← number 1 2 s
  let s ← spacedMark '-' s
  let (d, s) ← number 1 2 s
  some (← Day.ofParts? y m d, s)

/-- A time with blanks between its parts. -/
def looseTime (s : List Char) : Option (Instant.ClockTime × List Char) := do
  let (hour, s) ← number 1 2 (skipBlanks s)
  let s ← spacedMark ':' s
  let (minute, s) ← number 1 2 s
  let s ← spacedMark ':' s
  let (second, s) ← number 1 2 s
  let (nano, s) ← optionalFraction s
  some (⟨hour, minute, second, nano⟩, skipBlanks s)

/-- A day as RFC 3339 writes it. -/
def strictDay (s : List Char) : Option (Day × List Char) := do
  let (y, s) ← number 4 4 s
  let s ← mark '-' s
  let (m, s) ← number 2 2 s
  let s ← mark '-' s
  let (d, s) ← number 2 2 s
  some (← Day.ofParts? y m d, s)

/-- A time as RFC 3339 writes it. -/
def strictTime (s : List Char) : Option (Instant.ClockTime × List Char) := do
  let (hour, s) ← number 2 2 s
  let s ← mark ':' s
  let (minute, s) ← number 2 2 s
  let s ← mark ':' s
  let (second, s) ← number 2 2 s
  let (nano, s) ← optionalFraction s
  some (⟨hour, minute, second, nano⟩, s)

/-- The name of UTC in place of an offset. -/
def utcName : List Char → Option (Int × List Char)
  | u :: t :: c :: rest =>
    if u.toLower == 'u' && t.toLower == 't' && c.toLower == 'c' then some (0, rest) else none
  | _ => none

/-- Passes colons and blanks. -/
def colonsOrBlanks (s : List Char) : Option (List Char) :=
  some (s.dropWhile fun c => c == ':' || isBlank c)

end TimeReader

open TimeReader

/-- A day, with nothing but blanks after it. -/
def Day.parse? (text : String) : Option Day :=
  match looseDay text.toList with
  | some (day, rest) => if (skipBlanks rest).isEmpty then some day else none
  | none => none

/-- An instant as RFC 3339 writes it. -/
def Instant.parseStrict? (text : String) : Option Instant := do
  let (day, s) ← strictDay text.toList
  let s ← separator s
  let (time, s) ← strictTime s
  let (ahead, s) ← offset (mark ':') s
  if s.isEmpty then Instant.ofLocal? day time ahead else none

/-- An instant as documents may write it. -/
def Instant.parse? (text : String) : Option Instant := do
  let (day, s) ← looseDay text.toList
  let s ← separator s
  let (time, s) ← looseTime s
  let (ahead, s) ← (utcName s).or (offset colonsOrBlanks s)
  if (skipBlanks s).isEmpty then Instant.ofLocal? day time ahead else none

end LogAnomaly
