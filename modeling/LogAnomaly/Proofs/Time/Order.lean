import LogAnomaly.Time.Day
import Mathlib.Data.Set.Insert
import Mathlib.Order.Bounds.Defs

/-!
# The order of days

Days are ordered by `Day.rank`, and `Day.latest` is the later one of two days.
-/

namespace LogAnomaly.Day

theorem le_iff_rank {a b : Day} : a ≤ b ↔ a.rank ≤ b.rank := Iff.rfl

theorem lt_iff_rank {a b : Day} : a < b ↔ a.rank < b.rank := Iff.rfl

theorem le_refl (a : Day) : a ≤ a := Int.le_refl _

theorem le_trans {a b c : Day} (h : a ≤ b) (h' : b ≤ c) : a ≤ c := Int.le_trans h h'

theorem not_lt {a b : Day} : ¬ a < b ↔ b ≤ a := Int.not_lt

theorem latest_cases (a b : Day) : (a < b ∧ a.latest b = b) ∨ (b ≤ a ∧ a.latest b = a) := by
  unfold latest
  split
  · rename_i h
    exact .inl ⟨h, rfl⟩
  · rename_i h
    exact .inr ⟨not_lt.1 h, rfl⟩

theorem le_latest_left (a b : Day) : a ≤ a.latest b := by
  rcases latest_cases a b with ⟨h, heq⟩ | ⟨-, heq⟩ <;> rw [heq]
  · rw [lt_iff_rank] at h
    rw [le_iff_rank]
    omega
  · exact le_refl a

theorem le_latest_right (a b : Day) : b ≤ a.latest b := by
  rcases latest_cases a b with ⟨-, heq⟩ | ⟨h, heq⟩ <;> rw [heq]
  · exact le_refl b
  · exact h

/-- One more day brings the greatest day forward. -/
theorem isGreatest_insert {days : Set Day} {last : Day} (h : IsGreatest days last) (day : Day) :
    IsGreatest (insert day days) (last.latest day) := by
  refine ⟨?_, ?_⟩
  · rcases latest_cases last day with ⟨-, heq⟩ | ⟨-, heq⟩ <;> rw [heq]
    · exact Set.mem_insert ..
    · exact Set.mem_insert_of_mem _ h.1
  · rintro other (rfl | hother)
    · exact le_latest_right ..
    · exact le_trans (h.2 hother) (le_latest_left ..)

end LogAnomaly.Day
