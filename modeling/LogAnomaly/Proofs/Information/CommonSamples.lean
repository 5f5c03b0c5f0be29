import LogAnomaly.Information.CommonSamples
import LogAnomaly.Proofs.Information.Samples

/-!
# The table of common samples

* `CommonSamples.cell_addPair`, `CommonSamples.cell_addAll`: what a pair of messages, and what an
  interval adds to a cell;
* `CommonSamples.cell_ofIntervals`: so each cell counts the samples that both of its messages
  occupy, all of them and each once.
-/

namespace LogAnomaly.CommonSamples

open Finset

variable {n : Nat}

@[simp] theorem cell_zero (i j : Fin n) : (zero n).cell i j = 0 := by
  show (Vector.replicate n (Vector.replicate n 0))[i][j] = 0
  simp

theorem cell_add (t : CommonSamples n) (i j k l : Fin n) (count : Nat) :
    (t.add i j count).cell k l = t.cell k l + if i = k ∧ j = l then count else 0 := by
  show (t.counts.set i (t.counts[i].set j (t.counts[i][j] + count)))[k][l] = t.counts[k][l] + _
  by_cases hi : i = k
  · subst hi
    by_cases hj : j = l
    · subst hj
      simp
    · simp [hj, Fin.val_ne_of_ne hj]
  · simp [hi, Fin.val_ne_of_ne hi]

/-! ## Pairs of messages -/

/-- What two messages add to a cell. -/
def pairShare (ticks : Nat) (a b : Fin n × Occupancy) (i j : Fin n) : Nat :=
  if (a.1 = i ∧ b.1 = j) ∨ (a.1 = j ∧ b.1 = i) then a.2.common ticks b.2 else 0

theorem pairShare_comm (ticks : Nat) (a b : Fin n × Occupancy) (i j : Fin n) :
    pairShare ticks a b i j = pairShare ticks a b j i :=
  if_congr or_comm rfl rfl

/-- In the row of the first message only the cell of the second one grows. -/
theorem pairShare_self (ticks : Nat) (a b : Fin n × Occupancy) (j : Fin n) :
    pairShare ticks a b a.1 j = if b.1 = j then a.2.common ticks b.2 else 0 := by
  refine if_congr ⟨?_, fun h => .inl ⟨rfl, h⟩⟩ rfl rfl
  rintro (⟨-, h⟩ | ⟨ha, hb⟩)
  · exact h
  · exact hb.trans ha

theorem pairShare_of_ne (ticks : Nat) {a : Fin n × Occupancy} (b : Fin n × Occupancy) {i j : Fin n}
    (hi : a.1 ≠ i) (hj : a.1 ≠ j) : pairShare ticks a b i j = 0 :=
  if_neg fun h => h.elim (fun h => hi h.1) (fun h => hj h.1)

theorem cell_addPair (ticks : Nat) (a b : Fin n × Occupancy) (t : CommonSamples n) (i j : Fin n) :
    (t.addPair ticks a b).cell i j = t.cell i j + pairShare ticks a b i j := by
  by_cases hab : a.1 = b.1
  · have honce : (a.1 = i ∧ b.1 = j) ∨ (a.1 = j ∧ b.1 = i) ↔ a.1 = i ∧ b.1 = j := by
      rw [← hab, and_comm (a := a.1 = j), or_self]
    simp only [addPair, if_pos hab, cell_add, pairShare, honce]
  · -- the two cells differ, so that neither grows twice
    have htwice : ¬ ((a.1 = i ∧ b.1 = j) ∧ (b.1 = i ∧ a.1 = j)) := fun h =>
      hab (h.1.1.trans h.2.1.symm)
    simp only [addPair, if_neg hab, cell_add, pairShare, and_comm (a := a.1 = j)]
    by_cases hij : a.1 = i ∧ b.1 = j
    · have hji : ¬ (b.1 = i ∧ a.1 = j) := fun h => htwice ⟨hij, h⟩
      simp only [if_pos hij, if_neg hji, if_pos (Or.inl hij), Nat.add_zero]
    · simp only [if_neg hij, Nat.add_zero, or_iff_right hij]

theorem cell_foldl_addPair (ticks : Nat) (a : Fin n × Occupancy) (s : List (Fin n × Occupancy))
    (t : CommonSamples n) (i j : Fin n) :
    (s.foldl (fun t b => t.addPair ticks a b) t).cell i j =
      t.cell i j + (s.map fun b => pairShare ticks a b i j).sum := by
  induction s generalizing t with
  | nil => rfl
  | cons b rest ih =>
    rw [List.foldl_cons, ih, cell_addPair, List.map_cons, List.sum_cons, Nat.add_assoc]

/-! ## The messages of an interval -/

/-- The samples of a row. -/
def rowSamples (ticks : Nat) (present : List (Fin n × Occupancy)) (i : Fin n) :
    Finset (Fin ticks) :=
  univ.filter fun tick => ∃ x ∈ present, x.1 = i ∧ x.2.Holds tick

variable {ticks : Nat} {x : Fin n × Occupancy} {rest : List (Fin n × Occupancy)} {i j : Fin n}

theorem rowSamples_of_notMem {present : List (Fin n × Occupancy)}
    (h : i ∉ present.map Prod.fst) : rowSamples ticks present i = ∅ := by
  refine filter_eq_empty_iff.2 fun tick _ => ?_
  rintro ⟨x, hx, rfl, -⟩
  exact h (List.mem_map_of_mem hx)

theorem rowSamples_cons_self (h : x.1 ∉ rest.map Prod.fst) :
    rowSamples ticks (x :: rest) x.1 = x.2.samples ticks := by
  ext tick
  simp only [rowSamples, mem_filter_univ, Occupancy.mem_samples, List.exists_mem_cons_iff, true_and]
  refine ⟨?_, .inl⟩
  rintro (htick | ⟨y, hy, hrow, -⟩)
  · exact htick
  · exact absurd (hrow ▸ List.mem_map_of_mem hy) h

theorem rowSamples_cons_of_ne (h : x.1 ≠ i) :
    rowSamples ticks (x :: rest) i = rowSamples ticks rest i := by
  ext tick
  simp [rowSamples, h]

/-- Messages that come once each share with another one what its row does. -/
theorem sum_common {s : List (Fin n × Occupancy)} {o : Occupancy} (ho : o.Within ticks)
    (hnodup : (s.map Prod.fst).Nodup) (hs : ∀ x ∈ s, x.2.Within ticks) (j : Fin n) :
    (s.map fun x => if x.1 = j then o.common ticks x.2 else 0).sum =
      (o.samples ticks ∩ rowSamples ticks s j).card := by
  induction s with
  | nil => simp [rowSamples]
  | cons x rest ih =>
    obtain ⟨hx, hnodup⟩ := List.nodup_cons.1 hnodup
    have hrest := ih hnodup fun y hy => hs y (List.mem_cons_of_mem _ hy)
    rw [List.map_cons, List.sum_cons, hrest]
    by_cases hj : x.1 = j
    · subst hj
      rw [if_pos rfl, rowSamples_of_notMem hx, inter_empty, card_empty, Nat.add_zero,
        rowSamples_cons_self hx, Occupancy.common_eq_card ho (hs x List.mem_cons_self)]
    · rw [if_neg hj, Nat.zero_add, rowSamples_cons_of_ne hj]

section

variable (hnodup : ((x :: rest).map Prod.fst).Nodup) (hs : ∀ y ∈ x :: rest, y.2.Within ticks)
include hnodup hs

/-- A message and those after it: its row gets all that it shares with another one. -/
theorem sum_pairShare_self (j : Fin n) :
    ((x :: rest).map fun y => pairShare ticks x y x.1 j).sum =
      (rowSamples ticks (x :: rest) x.1 ∩ rowSamples ticks (x :: rest) j).card := by
  have hself : rowSamples ticks (x :: rest) x.1 = x.2.samples ticks :=
    rowSamples_cons_self (List.nodup_cons.1 hnodup).1
  simp only [pairShare_self]
  rw [sum_common (hs x List.mem_cons_self) hnodup hs, hself]

/-- What the first message adds to a cell, and what the others share. -/
theorem sum_pairShare (i j : Fin n) :
    ((x :: rest).map fun y => pairShare ticks x y i j).sum +
        (rowSamples ticks rest i ∩ rowSamples ticks rest j).card =
      (rowSamples ticks (x :: rest) i ∩ rowSamples ticks (x :: rest) j).card := by
  have hgone : rowSamples ticks rest x.1 = ∅ := rowSamples_of_notMem (List.nodup_cons.1 hnodup).1
  by_cases hi : x.1 = i
  · subst hi
    rw [sum_pairShare_self hnodup hs, hgone, empty_inter, card_empty, Nat.add_zero]
  · by_cases hj : x.1 = j
    · subst hj
      simp only [pairShare_comm ticks x _ i]
      rw [sum_pairShare_self hnodup hs, hgone, inter_empty, card_empty, Nat.add_zero, inter_comm]
    · have hnone : ((x :: rest).map fun y => pairShare ticks x y i j).sum = 0 := by
        simp [pairShare_of_ne ticks _ hi hj]
      rw [hnone, Nat.zero_add, rowSamples_cons_of_ne hi, rowSamples_cons_of_ne hj]

end

/-- A cell grows by the samples of the interval that both of its messages occupy. -/
theorem cell_addAll {present : List (Fin n × Occupancy)} (hnodup : (present.map Prod.fst).Nodup)
    (hs : ∀ x ∈ present, x.2.Within ticks) (t : CommonSamples n) (i j : Fin n) :
    (t.addAll ticks present).cell i j =
      t.cell i j + (rowSamples ticks present i ∩ rowSamples ticks present j).card := by
  induction present generalizing t with
  | nil => simp [addAll, rowSamples]
  | cons x rest ih =>
    rw [addAll, ih (List.nodup_cons.1 hnodup).2 fun y hy => hs y (List.mem_cons_of_mem _ hy),
      cell_foldl_addPair, Nat.add_assoc, sum_pairShare hnodup hs]

/-! ## Many intervals -/

section

variable {sampling : Sampling} {ids : List Nat} (hids : ids.Nodup)
include hids

theorem rowSamples_present (interval : Interval) (i : Fin ids.length) :
    rowSamples sampling.ticks (interval.present sampling ids) i =
      interval.samples sampling ids[i] := by
  ext tick
  simp only [rowSamples, Interval.samples, mem_filter_univ]
  constructor
  · rintro ⟨⟨_, o⟩, hx, rfl, htick⟩
    obtain ⟨activity, hmem, hid, rfl⟩ := (Interval.mem_present hids).1 hx
    exact ⟨activity, hmem, hid, (Occupancy.holds_ofActivity sampling activity tick).1 htick⟩
  · rintro ⟨activity, hmem, hid, htick⟩
    exact ⟨_, (Interval.mem_present hids).2 ⟨activity, hmem, hid, rfl⟩, rfl,
      (Occupancy.holds_ofActivity sampling activity tick).2 htick⟩

theorem cell_foldl_addAll (intervals : List Interval) (t : CommonSamples ids.length)
    (i j : Fin ids.length) :
    (intervals.foldl (fun t interval => t.addAll sampling.ticks (interval.present sampling ids))
        t).cell i j =
      t.cell i j + (intervals.map fun interval =>
        (interval.samples sampling ids[i] ∩ interval.samples sampling ids[j]).card).sum := by
  induction intervals generalizing t with
  | nil => rfl
  | cons interval rest ih =>
    rw [List.foldl_cons, ih, cell_addAll (interval.nodup_present sampling hids)
        fun x hx => Interval.within_of_mem_present hx,
      rowSamples_present hids, rowSamples_present hids, List.map_cons, List.sum_cons, Nat.add_assoc]

/-- A cell counts the samples that both of its messages occupy. -/
theorem cell_ofIntervals (intervals : List Interval) (i j : Fin ids.length) :
    (ofIntervals sampling ids intervals).cell i j =
      (occupiedSamples sampling intervals ids[i] ∩
        occupiedSamples sampling intervals ids[j]).card := by
  rw [ofIntervals, cell_foldl_addAll hids, cell_zero, Nat.zero_add, card_inter_occupiedSamples]

end

end LogAnomaly.CommonSamples
