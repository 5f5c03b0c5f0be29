import LogAnomaly.Proofs.Partition.Labels
import Mathlib.Algebra.BigOperators.Fin
import Mathlib.Algebra.BigOperators.Ring.Finset
import Mathlib.Algebra.Field.Basic
import Mathlib.Tactic.Ring

/-!
# Sums over labels

In exact arithmetic what labels are worth is a sum over sets of elements, in which order does not
matter.

* `labelled`: the elements with a label; `labelled_update_eq_ite`: the same after one element has
  changed its label;
* `pairTotal`: the sum over the pairs inside a set, and what one more element adds to it
  (`pairTotal_insert`);
* `labelsWorth_eq_sum`: what labels are worth, as a sum over these sets.
-/

namespace LogAnomaly

open Finset

/-! ## Elements with a label -/

section Labelled

variable {n : Nat} {β : Type} [DecidableEq β]

/-- The elements with a label. -/
def labelled (labels : Fin n → β) (label : β) : Finset (Fin n) :=
  univ.filter fun e => labels e = label

variable {labels : Fin n → β} {e : Fin n} {label target : β}

@[simp] theorem mem_labelled : e ∈ labelled labels label ↔ labels e = label := by
  simp [labelled]

theorem labelled_update (labels : Fin n → β) (e : Fin n) (target : β) :
    labelled (Function.update labels e target) target = insert e (labelled labels target) := by
  ext i
  by_cases h : i = e
  · simp [h]
  · simp [h]

theorem labelled_update_of_ne (labels : Fin n → β) (e : Fin n) (h : label ≠ target) :
    labelled (Function.update labels e target) label = (labelled labels label).erase e := by
  ext i
  by_cases hi : i = e
  · simp [hi, h.symm]
  · simp [hi]

/-- The clusters after an element has gone to another one. -/
theorem labelled_update_eq_ite (labels : Fin n → β) (e : Fin n) (target label : β) :
    labelled (Function.update labels e target) label =
      if label = target then insert e (labelled labels label)
      else if label = labels e then (labelled labels label).erase e
      else labelled labels label := by
  split_ifs with htarget hsource
  · rw [htarget, labelled_update]
  · rw [labelled_update_of_ne _ _ htarget]
  · rw [labelled_update_of_ne _ _ htarget, erase_eq_of_notMem]
    exact fun he => hsource (mem_labelled.1 he).symm

theorem labelled_val {k : Nat} (labels : Fin n → Fin k) (label : Fin k) :
    labelled (fun e => (labels e).val) label.val = labelled labels label := by
  ext i
  simp [Fin.ext_iff]

end Labelled

/-- The rows with a label are the elements with it. -/
theorem toFinset_rowsWith {n : Nat} (labels : Fin n → Nat) (label : Nat) :
    (rowsWith labels label).toFinset = labelled labels label := by
  ext i
  simp [rowsWith]

theorem pairwise_rowsWith {n : Nat} (labels : Fin n → Nat) (label : Nat) :
    (rowsWith labels label).Pairwise (· < ·) :=
  (List.pairwise_lt_finRange n).filter _

theorem length_rowsWith {n : Nat} (labels : Fin n → Nat) (label : Nat) :
    (rowsWith labels label).length = (labelled labels label).card := by
  rw [← toFinset_rowsWith, List.toFinset_card_of_nodup]
  exact (pairwise_rowsWith labels label).imp fun h => h.ne

/-! ## Sums over pairs -/

section Pairs

variable {α : Type} [Field α] {n : Nat} {cell : Fin n → Fin n → α} {s : Finset (Fin n)} {e : Fin n}

theorem total_eq_sum (xs : List α) : total xs = xs.sum := by
  rw [total, Nat.cast_zero, List.sum_eq_foldl]

/-- The sum over the unordered pairs inside a set of elements. -/
def pairTotal (cell : Fin n → Fin n → α) (s : Finset (Fin n)) : α :=
  ∑ i ∈ s, ∑ j ∈ s with i < j, cell i j

theorem pairTotal_eq_ite (cell : Fin n → Fin n → α) (s : Finset (Fin n)) :
    pairTotal cell s = ∑ i ∈ s, ∑ j ∈ s, if i < j then cell i j else 0 :=
  sum_congr rfl fun _ _ => sum_filter ..

/-- One more element adds its pairs with the later and with the earlier ones. -/
theorem pairTotal_insert_split (cell : Fin n → Fin n → α) (he : e ∉ s) :
    pairTotal cell (insert e s) = pairTotal cell s +
      ∑ j ∈ s, ((if e < j then cell e j else 0) + if j < e then cell j e else 0) := by
  have hinner : ∀ i, (∑ j ∈ insert e s, if i < j then cell i j else 0) =
      (if i < e then cell i e else 0) + ∑ j ∈ s, if i < j then cell i j else 0 :=
    fun i => sum_insert he
  rw [pairTotal_eq_ite, pairTotal_eq_ite, sum_insert he]
  simp only [hinner, lt_irrefl, if_false, sum_add_distrib]
  ring

/-- One more element adds its sum over the others. -/
theorem pairTotal_insert (hsymm : ∀ i j, cell i j = cell j i) (he : e ∉ s) :
    pairTotal cell (insert e s) = pairTotal cell s + ∑ j ∈ s, cell e j := by
  rw [pairTotal_insert_split cell he]
  congr 1
  refine sum_congr rfl fun j hj => ?_
  have hne : e ≠ j := fun h => he (h ▸ hj)
  rcases lt_or_gt_of_ne hne with h | h
  · simp [h, h.not_gt]
  · simp [h, h.not_gt, hsymm e j]

/-- One element less takes its sum over the others. -/
theorem pairTotal_erase (hsymm : ∀ i j, cell i j = cell j i) (he : e ∈ s) :
    pairTotal cell (s.erase e) = pairTotal cell s - ∑ j ∈ s.erase e, cell e j := by
  have h := pairTotal_insert hsymm (notMem_erase e s)
  rw [insert_erase he] at h
  rw [h, add_sub_cancel_right]

/-- Every pair is counted from both of its ends. -/
theorem sum_erase_eq_pairTotal (hsymm : ∀ i j, cell i j = cell j i) (s : Finset (Fin n)) :
    ∑ e ∈ s, ∑ j ∈ s.erase e, cell e j = pairTotal cell s + pairTotal cell s := by
  induction s using Finset.induction_on with
  | empty => simp [pairTotal]
  | insert e s he ih =>
    have hold : ∀ i ∈ s, ∑ j ∈ (insert e s).erase i, cell i j =
        cell e i + ∑ j ∈ s.erase i, cell i j := fun i hi => by
      have hne : e ≠ i := fun h => he (h ▸ hi)
      rw [erase_insert_of_ne hne, sum_insert fun h => he (mem_of_mem_erase h), hsymm i e]
    rw [sum_insert he, erase_insert he, sum_congr rfl hold, sum_add_distrib, ih,
      pairTotal_insert hsymm he]
    ring

/-- The pairs of an ascending list are the pairs inside the set of its elements. -/
theorem sum_pairs (cell : Fin n → Fin n → α) {l : List (Fin n)} (hl : l.Pairwise (· < ·)) :
    ((pairs l).map fun (i, j) => cell i j).sum = pairTotal cell l.toFinset := by
  induction l with
  | nil => simp [pairs, pairTotal]
  | cons e l ih =>
    have hlt := List.pairwise_cons.1 hl
    have he : e ∉ l.toFinset := fun h => lt_irrefl e (hlt.1 e (List.mem_toFinset.1 h))
    have hrow : ∑ j ∈ l.toFinset, ((if e < j then cell e j else 0) +
        if j < e then cell j e else 0) = ∑ j ∈ l.toFinset, cell e j := by
      refine sum_congr rfl fun j hj => ?_
      have h := hlt.1 j (List.mem_toFinset.1 hj)
      simp [h, h.not_gt]
    have hnodup : l.Nodup := hlt.2.imp fun h => h.ne
    rw [List.toFinset_cons, pairTotal_insert_split cell he, hrow, List.sum_toFinset _ hnodup,
      ← ih hlt.2, pairs]
    simp only [List.map_append, List.map_map, List.sum_append, Function.comp_def]
    exact add_comm _ _

end Pairs

/-! ## What labels are worth -/

section Worth

variable {α : Type} [Field α] (objective : Objective α) (m : InformationMatrix α)

theorem pairSum_rowsWith (labels : Fin m.size → Nat) (label : Nat) :
    pairSum m (rowsWith labels label) = pairTotal m.cell (labelled labels label) := by
  rw [pairSum, total_eq_sum, sum_pairs m.cell (pairwise_rowsWith labels label),
    toFinset_rowsWith]

/-- What one cluster gives. -/
def groupWorth (s : Finset (Fin m.size)) : α :=
  objective.worth s.card (pairTotal m.cell s) m.size

theorem labelsWorth_eq_sum_range (k : Nat) (labels : Fin m.size → Nat) :
    labelsWorth objective m k labels =
      ∑ label ∈ range k, groupWorth objective m (labelled labels label) := by
  have hrows : ∀ label, objective.worth (rowsWith labels label).length
      (pairSum m (rowsWith labels label)) m.size =
        groupWorth objective m (labelled labels label) := fun label => by
    rw [length_rowsWith, pairSum_rowsWith]
    rfl
  rw [labelsWorth, total_eq_sum]
  exact congrArg List.sum (List.map_congr_left fun label _ => hrows label)

/-- What labels are worth is the sum of what their clusters give. -/
theorem labelsWorth_eq_sum {k : Nat} (labels : Fin m.size → Fin k) :
    labelsWorth objective m k (fun e => (labels e).val) =
      ∑ c, groupWorth objective m (labelled labels c) := by
  rw [labelsWorth_eq_sum_range, sum_range]
  exact sum_congr rfl fun c _ => congrArg (groupWorth objective m) (labelled_val labels c)

end Worth

end LogAnomaly
