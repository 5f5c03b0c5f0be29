import LogAnomaly.Information.Binary
import LogAnomaly.Proofs.Partition.Sums
import Mathlib.Algebra.Order.Field.Basic
import Mathlib.Data.Fintype.Card

/-!
# Counts that do not contradict each other

* `Contingency.Consistent`: what the sizes of two sets of samples always satisfy
  (`Contingency.consistent_card`);
* `Contingency.Consistent.uncut`: from such numbers nothing is cut off;
* `Contingency.Consistent.cells_pos`: a cell that counts a sample has shares that are not 0, so that
  they can be divided by;
* `binaryInformation_comm`: in exact arithmetic two properties tell the same about each other,
  whatever the logarithm is.
-/

namespace LogAnomaly

namespace Contingency

/-- Numbers of samples with both, the first and the second of two properties, out of all, that do
not contradict each other. -/
structure Consistent (both first second samples : Nat) : Prop where
  both_le : both ≤ min first second
  /-- The samples with at least one of the two. -/
  either_le : first + second - both ≤ samples

theorem consistent_card {S : Type} [Fintype S] [DecidableEq S] (a b : Finset S) :
    Consistent (a ∩ b).card a.card b.card (Fintype.card S) where
  both_le := le_min (Finset.card_le_card Finset.inter_subset_left)
    (Finset.card_le_card Finset.inter_subset_right)
  either_le := by
    rw [← Finset.card_union]
    exact Finset.card_le_univ _

/-- The four counts are the differences of the numbers they come from: none of these was cut, and
no difference is below 0. -/
structure Uncut (t : Contingency) (both first second samples : Nat) : Prop where
  both_eq : t.both = both
  first_eq : (t.first : Int) = first - both
  second_eq : (t.second : Int) = second - both
  neither_eq : (t.neither : Int) = samples - (first + second - both)

variable {both first second samples : Nat}

theorem Consistent.uncut (h : Consistent both first second samples) :
    (ofMarginals both first second samples).Uncut both first second samples := by
  have hboth := h.both_le
  have heither := h.either_le
  have hmin : min (min both first) second = both := by omega
  constructor <;> simp only [ofMarginals, hmin] <;> omega

/-! ## Shares -/

section Shares

variable {α : Type} [Field α] [LinearOrder α] [IsStrictOrderedRing α] {count : Nat}

theorem share_pos (hcount : 0 < count) (hle : count ≤ samples) :
    0 < (share count samples : α) :=
  div_pos (Nat.cast_pos.2 hcount) (Nat.cast_pos.2 (Nat.lt_of_lt_of_le hcount hle))

theorem one_sub_share_pos (h : count < samples) : 0 < ((1 : Nat) : α) - share count samples := by
  have hsamples : (0 : α) < (samples : Nat) := Nat.cast_pos.2 (Nat.zero_lt_of_lt h)
  rw [Nat.cast_one, sub_pos, share, div_lt_one hsamples]
  exact Nat.cast_lt.2 h

/-- In a cell that counts a sample the shares of both values are positive. -/
theorem Consistent.cells_pos (h : Consistent both first second samples) :
    ∀ cell ∈ (ofMarginals both first second samples).cells
      (share first samples : α) (share second samples), cell.1 ≠ 0 → 0 < cell.2.1 * cell.2.2 := by
  have hboth := h.both_le
  have heither := h.either_le
  have hmin : min (min both first) second = both := by omega
  have hfirst : 0 < first → 0 < (share first samples : α) := fun hpos => share_pos hpos (by omega)
  have hsecond : 0 < second → 0 < (share second samples : α) := fun hpos =>
    share_pos hpos (by omega)
  intro cell hcell hne
  simp only [cells, ofMarginals, hmin, List.mem_cons, List.not_mem_nil, or_false] at hcell
  obtain rfl | rfl | rfl | rfl := hcell
  · exact mul_pos (hfirst (by omega)) (hsecond (by omega))
  · -- a sample with the first alone is one without the second
    exact mul_pos (hfirst (by omega)) (one_sub_share_pos (by omega))
  · exact mul_pos (one_sub_share_pos (by omega)) (hsecond (by omega))
  · exact mul_pos (one_sub_share_pos (by omega)) (one_sub_share_pos (by omega))

end Shares

/-! ## Two properties in the other order -/

/-- The counts with the two properties in the other order. -/
def swap (t : Contingency) : Contingency := ⟨t.both, t.second, t.first, t.neither⟩

theorem ofMarginals_swap (both first second samples : Nat) :
    ofMarginals both second first samples = (ofMarginals both first second samples).swap := by
  rw [ofMarginals, ofMarginals, swap, Nat.min_right_comm both second first, Nat.add_comm second]

section Swap

variable {α : Type} [Field α]

theorem cells_swap (t : Contingency) (x y : α) :
    (t.swap.cells y x).Perm ((t.cells x y).map fun cell => (cell.1, cell.2.2, cell.2.1)) :=
  .cons _ (.swap ..)

theorem cellTerm_swap [Logarithm α] (samples : Nat) (cell : Nat × α × α) :
    cellTerm samples (cell.1, cell.2.2, cell.2.1) = cellTerm samples cell := by
  simp only [cellTerm, mul_comm cell.2.2]

end Swap

end Contingency

open Contingency in
/-- Two properties tell the same about each other. -/
theorem binaryInformation_comm {α : Type} [Field α] [LT α] [DecidableLT α] [Logarithm α]
    (both first second samples : Nat) :
    (binaryInformation both first second samples : α) =
      binaryInformation both second first samples := by
  have hterms : ∀ (t : Contingency) (x y : α),
      total (((t.swap.cells y x).filter fun cell => cell.1 != 0).map (cellTerm samples)) =
        total (((t.cells x y).filter fun cell => cell.1 != 0).map (cellTerm samples)) := by
    intro t x y
    have hperm := ((cells_swap t x y).filter fun cell => cell.1 != 0).map (cellTerm samples)
    rw [total_eq_sum, total_eq_sum, hperm.sum_eq, List.filter_map, List.map_map]
    refine congrArg List.sum (List.map_congr_left fun cell _ => cellTerm_swap samples cell)
  simp only [binaryInformation, ofMarginals_swap both first second, hterms]

end LogAnomaly
