import LogAnomaly.Information.Matrix
import LogAnomaly.Proofs.Information.CommonSamples
import LogAnomaly.Proofs.Information.Contingency
import LogAnomaly.Proofs.Time.Parts
import Mathlib.Algebra.Order.Ring.Rat
import Mathlib.Data.Fin.Tuple.Take
import Mathlib.Data.List.Permutation

/-!
# Information matrices

* `mem_survivors`, `pairwise_survivors`: the messages that have a row;
* `InformationMatrix.cell_ofIntervals`: the cells of a matrix;
* `InformationMatrix.counts_exact`: the counts that a cell is computed from are those of samples,
  so that none of them is cut off, and in exact arithmetic the matrix is symmetric.
-/

namespace LogAnomaly

/-! ## Messages with a row -/

theorem mem_occurring {intervals : List Interval} {id : Nat} :
    id ∈ (occurring intervals).toList ↔ ∃ interval ∈ intervals, interval.contains id := by
  simp [occurring, IdSet.ofList, mem_ascending, Interval.messages, Interval.contains]

theorem appearances_pos {intervals : List Interval} {id : Nat} :
    0 < appearances intervals id ↔ ∃ interval ∈ intervals, interval.contains id :=
  List.countP_pos_iff

/-- The messages with a row are those that appear often enough. -/
theorem mem_survivors {minAppearances : Nat} {intervals : List Interval} {id : Nat} :
    id ∈ InformationMatrix.survivors minAppearances intervals ↔
      minAppearances < appearances intervals id := by
  rw [InformationMatrix.survivors, List.mem_filter, decide_eq_true_iff, and_iff_right_iff_imp]
  intro h
  exact mem_occurring.2 (appearances_pos.1 (Nat.zero_lt_of_lt h))

theorem pairwise_survivors (minAppearances : Nat) (intervals : List Interval) :
    (InformationMatrix.survivors minAppearances intervals).Pairwise (· < ·) :=
  (occurring intervals).pairwise.filter _

theorem nodup_survivors (minAppearances : Nat) (intervals : List Interval) :
    (InformationMatrix.survivors minAppearances intervals).Nodup :=
  (pairwise_survivors minAppearances intervals).imp Nat.ne_of_lt

/-! ## Cells -/

theorem SquareMatrix.getElem_data_ofCells {α : Type} {n : Nat} (cell : Fin n → Fin n → α)
    (i j : Fin n) (h : i.val * n + j.val < (ofCells cell).data.size) :
    (ofCells cell).data[i.val * n + j.val] = cell i j := by
  have hdiv : (i.val * n + j.val) / n = i.val := by
    rw [Nat.mul_comm, Nat.mul_add_div i.pos, Nat.div_eq_of_lt j.isLt, Nat.add_zero]
  have hmod : (i.val * n + j.val) % n = j.val := by
    rw [Nat.mul_add_mod', Nat.mod_eq_of_lt j.isLt]
  simp [ofCells, Vector.getElem_toArray, Vector.getElem_flatten, hdiv, hmod]

namespace InformationMatrix

/-- The common samples of the messages with a row. -/
abbrev commonSamples (sampling : Sampling) (minAppearances : Nat) (intervals : List Interval) :
    CommonSamples (survivors minAppearances intervals).length :=
  .ofIntervals sampling (survivors minAppearances intervals) intervals

variable (sampling : Sampling) (minAppearances : Nat) (intervals : List Interval)
  (i j : Fin (survivors minAppearances intervals).length)

/-! ## Counts -/

include i in
/-- If a message has a row, then there is an interval. -/
theorem samples_eq_card :
    max intervals.length 1 * sampling.ticks = Fintype.card (Sample sampling intervals) := by
  have happears := mem_survivors.1 (List.get_mem _ i)
  obtain ⟨interval, hmem, -⟩ := appearances_pos.1 (Nat.zero_lt_of_lt happears)
  have hpos : 1 ≤ intervals.length := List.length_pos_of_mem hmem
  rw [Nat.max_eq_left hpos, Fintype.card_prod, Fintype.card_fin, Fintype.card_fin]

theorem commonSamples_eq_card :
    (commonSamples sampling minAppearances intervals).cell i j =
      (occupiedSamples sampling intervals (survivors minAppearances intervals)[i] ∩
        occupiedSamples sampling intervals (survivors minAppearances intervals)[j]).card :=
  CommonSamples.cell_ofIntervals (nodup_survivors minAppearances intervals) intervals i j

theorem commonSamples_self :
    (commonSamples sampling minAppearances intervals).cell i i =
      (occupiedSamples sampling intervals (survivors minAppearances intervals)[i]).card := by
  rw [commonSamples_eq_card, Finset.inter_self]

theorem commonSamples_comm :
    (commonSamples sampling minAppearances intervals).cell i j =
      (commonSamples sampling minAppearances intervals).cell j i := by
  rw [commonSamples_eq_card, commonSamples_eq_card, Finset.inter_comm]

theorem consistent_commonSamples :
    let common := commonSamples sampling minAppearances intervals
    Contingency.Consistent (common.cell i j) (common.cell i i) (common.cell j j)
      (max intervals.length 1 * sampling.ticks) := by
  intro common
  rw [commonSamples_eq_card, commonSamples_self, commonSamples_self,
    samples_eq_card sampling minAppearances intervals i]
  exact Contingency.consistent_card _ _

/-! ## Cells -/

theorem cell_ofIntervals {α : Type} [Add α] [Sub α] [Mul α] [Div α] [NatCast α] [LT α]
    [DecidableLT α] [Logarithm α] :
    let common := commonSamples sampling minAppearances intervals
    (ofIntervals sampling minAppearances intervals : InformationMatrix α).cell i j =
      if i = j then ((0 : Nat) : α)
      else binaryInformation (common.cell i j) (common.cell i i) (common.cell j j)
        (max intervals.length 1 * sampling.ticks) :=
  SquareMatrix.getElem_data_ofCells _ i j _

section Exact

variable {α : Type} [Field α] [LT α] [DecidableLT α] [Logarithm α]

theorem cell_ofIntervals_self :
    (ofIntervals sampling minAppearances intervals : InformationMatrix α).cell i i = 0 := by
  rw [cell_ofIntervals, if_pos rfl, Nat.cast_zero]

theorem cell_ofIntervals_comm :
    (ofIntervals sampling minAppearances intervals : InformationMatrix α).cell i j =
      (ofIntervals sampling minAppearances intervals : InformationMatrix α).cell j i := by
  rw [cell_ofIntervals, cell_ofIntervals, binaryInformation_comm, commonSamples_comm]
  exact if_congr eq_comm rfl rfl

end Exact

open Contingency in
/-- The counts behind an information matrix are exact: two messages share the samples in which both
are present, and have on their own those in which they are present. So the counts do not contradict
each other, none of them is cut off in a cell, and what a cell divides by is positive. In exact
arithmetic, with any function as the logarithm, the matrix is symmetric with a diagonal of zeros. -/
theorem counts_exact {α : Type} [Field α] [LinearOrder α] [IsStrictOrderedRing α] [Logarithm α] :
    let ids := survivors minAppearances intervals
    let m : InformationMatrix α := ofIntervals sampling minAppearances intervals
    let common := CommonSamples.ofIntervals sampling ids intervals
    let samples := max intervals.length 1 * sampling.ticks
    let t := ofMarginals (common.cell i j) (common.cell i i) (common.cell j j) samples
    samples = Fintype.card (Sample sampling intervals) ∧
    common.cell i i = (occupiedSamples sampling intervals ids[i]).card ∧
    common.cell i j = (occupiedSamples sampling intervals ids[i] ∩
      occupiedSamples sampling intervals ids[j]).card ∧
    Consistent (common.cell i j) (common.cell i i) (common.cell j j) samples ∧
    t.Uncut (common.cell i j) (common.cell i i) (common.cell j j) samples ∧
    (∀ cell ∈ t.cells (share (common.cell i i) samples : α) (share (common.cell j j) samples),
      cell.1 ≠ 0 → 0 < cell.2.1 * cell.2.2) ∧
    (i ≠ j → m.cell i j =
      binaryInformation (common.cell i j) (common.cell i i) (common.cell j j) samples) ∧
    m.cell i j = m.cell j i ∧ m.cell i i = 0 := by
  intro ids m common samples t
  have hconsistent : Consistent (common.cell i j) (common.cell i i) (common.cell j j) samples :=
    consistent_commonSamples sampling minAppearances intervals i j
  refine ⟨samples_eq_card sampling minAppearances intervals i,
    commonSamples_self sampling minAppearances intervals i,
    commonSamples_eq_card sampling minAppearances intervals i j,
    hconsistent, hconsistent.uncut, hconsistent.cells_pos, fun hne => ?_,
    cell_ofIntervals_comm sampling minAppearances intervals i j,
    cell_ofIntervals_self sampling minAppearances intervals i⟩
  exact (cell_ofIntervals sampling minAppearances intervals i j).trans (if_neg hne)

/-! ## Two intervals of three ticks -/

/-- One message comes twice in the first interval, with ticks in no order and out of range; the
other one has no tick in range in the second interval. -/
def mixedIntervals : List Interval :=
  let start : Instant := .ofParts (.ofParts 2024 1 1) 0 0
  [⟨1, start, [⟨7, 1, some [2, 0, 2, 9]⟩, ⟨8, 1, some [1, 2]⟩, ⟨7, 1, some [0]⟩]⟩,
   ⟨2, start, [⟨8, 1, some [3]⟩, ⟨7, 1, some [1, 5]⟩]⟩]

theorem survivors_mixed : survivors 1 mixedIntervals = [7, 8] := by cbv

theorem common_mixed :
    CommonSamples.ofIntervals (.timeline 3) [7, 8] mixedIntervals =
      ⟨#v[#v[3, 2], #v[2, 5]]⟩ := by cbv

/-- With the distance from 1 as the logarithm. -/
theorem counts_exact_mixed :
    let occupied := occupiedSamples (.timeline 3) mixedIntervals
    (occupied 7).card = 3 ∧ (occupied 8).card = 5 ∧ (occupied 7 ∩ occupied 8).card = 2 ∧
    (Contingency.ofMarginals 2 3 5 6).Uncut 2 3 5 6 ∧
    let _ : Logarithm ℚ := ⟨fun x => x - 1⟩
    let m : InformationMatrix ℚ := ofIntervals (.timeline 3) 1 mixedIntervals
    ∃ i j, m.ids[i] = 7 ∧ m.ids[j] = 8 ∧
      m.cell i j = binaryInformation 2 3 5 6 ∧ m.cell i j = m.cell j i ∧ m.cell i i = 0 := by
  let _ : Logarithm ℚ := ⟨fun x => x - 1⟩
  have hrows : ∀ ids : List Nat, ids = [7, 8] → ∃ i j : Fin ids.length,
      i ≠ j ∧ ids[i] = 7 ∧ ids[j] = 8 ∧
        let common := CommonSamples.ofIntervals (.timeline 3) ids mixedIntervals
        common.cell i i = 3 ∧ common.cell j j = 5 ∧ common.cell i j = 2 := by
    rintro _ rfl
    refine ⟨0, 1, by decide, rfl, rfl, ?_⟩
    rw [common_mixed]
    decide
  obtain ⟨i, j, hne, hi, hj, hfirst, hsecond, hboth⟩ := hrows _ survivors_mixed
  have hij := counts_exact (.timeline 3) 1 mixedIntervals i j (α := ℚ)
  have hji := counts_exact (.timeline 3) 1 mixedIntervals j i (α := ℚ)
  dsimp only at hij hji
  rw [hfirst, hsecond, hboth, hi, hj] at hij
  rw [hsecond, hj] at hji
  obtain ⟨-, hself, hinter, -, huncut, -, hcell, hcomm, hdiagonal⟩ := hij
  exact ⟨hself.symm, hji.2.1.symm, hinter.symm, huncut, i, j, hi, hj, hcell hne, hcomm, hdiagonal⟩

end InformationMatrix

end LogAnomaly
