import LogAnomaly.Time.Instant

/-!
# Fixed days and moments

`Day.ofParts` and `Instant.ofParts` give the day and the moment with the given parts, where there is
one. So a fixed day is written by its numbers alone.
-/

namespace LogAnomaly

/-- The day with the given parts, or the first one of 1970 if there is none. -/
def Day.ofParts (year : Int) (month day : Nat) : Day :=
  (ofParts? year month day).getD ⟨1970, 1, 1, by decide, by decide, by decide⟩

/-- The moment of a day with the given parts, or the first one of the day if there is none. -/
def Instant.ofParts (day : Day) (second nano : Nat) : Instant :=
  (ofParts? day second nano).getD ⟨day, 0, 0, by decide, .inl (by decide)⟩

end LogAnomaly
