import LogAnomaly.Partition.Basic
import LogAnomaly.Proofs.Ascending

/-!
# Partitions from labels

The clusters of a partition are the labels in use, in ascending order.

* `labelsWorth`: what labels are worth, as a sum over the clusters;
* `Partition.ofLabels`: the clusters of labels, numbered without gaps;
* `labelsInUse`: the labels in use;
* `compacted`: labels without gaps, and `assignment_ofLabels`: a partition assigns just these;
* `members_ofLabels`, `getElem?_parts_ofLabels`: a cluster has the rows of its label, and what is
  known of it is their number and their mean information.
-/

namespace LogAnomaly

/-! ## The clusters of labels -/

section

variable {α : Type} [Add α] [Div α] [NatCast α]

/-- The sum over the pairs of members. -/
def pairSum (m : InformationMatrix α) (members : List (Fin m.size)) : α :=
  total ((pairs members).map fun (i, j) => m.cell i j)

/-- What labels below `k` are worth. -/
def labelsWorth (objective : Objective α) (m : InformationMatrix α) (k : Nat)
    (labels : Fin m.size → Nat) : α :=
  total ((List.range k).map fun label =>
    let members := rowsWith labels label
    objective.worth members.length (pairSum m members) m.size)

/-- The clusters of labels in the order of the labels; labels without rows are left out. -/
def Partition.ofLabels (m : InformationMatrix α) (labels : Fin m.size → Nat) (objective : α) :
    Partition α :=
  let present := ascending (List.ofFn labels)
  { assignment := List.ofFn fun i => present.idxOf (labels i)
    parts := present.map fun label =>
      let members := rowsWith labels label
      ⟨members.length, m.pairMean members⟩
    objective }

end

/-- Labels without gaps: each one is replaced by the number of smaller labels in use. -/
def compacted (labels : List Nat) : List Nat :=
  labels.map fun label => ((List.range label).filter (· ∈ labels)).length

/-- The place of a label among those in use is the number of smaller ones in use. -/
theorem idxOf_ascending_eq {labels : List Nat} {label : Nat} (h : label ∈ labels) :
    (ascending labels).idxOf label = ((List.range label).filter (· ∈ labels)).length := by
  have hasc := pairwise_ascending labels
  rw [idxOf_ascending hasc (mem_ascending.2 h)]
  have hnodup : (ascending labels).Nodup := nodup_of_ascending hasc
  refine List.Perm.length_eq ((List.perm_ext_iff_of_nodup (hnodup.filter _)
    (List.nodup_range.filter _)).2 fun x => ?_)
  simp [mem_ascending, and_comm]

/-! ## The partition of labels -/

variable {α : Type} [Add α] [Div α] [NatCast α] {m : InformationMatrix α}
  {labels : Fin m.size → Nat} {worth : α}

/-- The labels in use, in ascending order. -/
def labelsInUse {n : Nat} (labels : Fin n → Nat) : List Nat := ascending (List.ofFn labels)

theorem pairwise_labelsInUse {n : Nat} (labels : Fin n → Nat) :
    (labelsInUse labels).Pairwise (· < ·) :=
  pairwise_ascending _

theorem nodup_labelsInUse {n : Nat} (labels : Fin n → Nat) : (labelsInUse labels).Nodup :=
  nodup_of_ascending (pairwise_labelsInUse labels)

theorem mem_labelsInUse {n : Nat} {labels : Fin n → Nat} {label : Nat} :
    label ∈ labelsInUse labels ↔ ∃ i, labels i = label := by
  rw [labelsInUse, mem_ascending, List.mem_ofFn]

/-- The place of the label of a row among those in use. -/
theorem idxOf_labelsInUse_eq_iff {n : Nat} {labels : Fin n → Nat} {i : Fin n} {c : Nat} :
    (labelsInUse labels).idxOf (labels i) = c ↔ (labelsInUse labels)[c]? = some (labels i) := by
  constructor
  · rintro rfl
    exact List.getElem?_idxOf (mem_labelsInUse.2 ⟨i, rfl⟩)
  · intro h
    obtain ⟨hc, hlabel⟩ := List.getElem?_eq_some_iff.1 h
    rw [← hlabel]
    exact (nodup_labelsInUse labels).idxOf_getElem c hc

/-- A label in use has a row. -/
theorem rowsWith_pos {n : Nat} {labels : Fin n → Nat} {label : Nat}
    (h : label ∈ labelsInUse labels) : 0 < (rowsWith labels label).length := by
  obtain ⟨i, hi⟩ := mem_labelsInUse.1 h
  exact List.length_pos_of_mem (List.mem_filter.2 ⟨List.mem_finRange i, by simpa using hi⟩)

/-! ## Every row a label of its own -/

theorem labelsInUse_val (n : Nat) : labelsInUse (fun i : Fin n => i.val) = List.range n := by
  refine eq_of_mem_iff_mem (pairwise_labelsInUse _) List.pairwise_lt_range fun label => ?_
  rw [mem_labelsInUse, List.mem_range]
  exact ⟨fun ⟨i, hi⟩ => hi ▸ i.isLt, fun h => ⟨⟨label, h⟩, rfl⟩⟩

theorem rowsWith_val {n : Nat} (i : Fin n) : rowsWith (fun j : Fin n => j.val) i.val = [i] := by
  have hpick : ∀ j ∈ List.finRange n, decide (j.val = i.val) = (j == i) := fun j _ => by
    rw [Bool.eq_iff_iff, decide_eq_true_iff, beq_iff_eq, Fin.ext_iff]
  rw [rowsWith, List.filter_congr hpick, List.filter_beq,
    List.count_eq_one_of_mem (List.nodup_finRange n) (List.mem_finRange i)]
  rfl

/-! ## Clusters -/

namespace Partition

theorem length_assignment_ofLabels (m : InformationMatrix α) (labels : Fin m.size → Nat)
    (worth : α) : (ofLabels m labels worth).assignment.length = m.size := by
  simp [ofLabels]

theorem length_parts_ofLabels (m : InformationMatrix α) (labels : Fin m.size → Nat) (worth : α) :
    (ofLabels m labels worth).parts.length = (labelsInUse labels).length := by
  simp [ofLabels, labelsInUse]

/-- A partition assigns its labels without their gaps. -/
theorem assignment_ofLabels (m : InformationMatrix α) (labels : Fin m.size → Nat) (worth : α) :
    (ofLabels m labels worth).assignment = compacted (List.ofFn labels) := by
  rw [compacted, List.map_ofFn]
  exact congrArg List.ofFn (funext fun i =>
    idxOf_ascending_eq (List.mem_ofFn.2 ⟨i, rfl⟩))

theorem getElem?_assignment_ofLabels (m : InformationMatrix α) (labels : Fin m.size → Nat)
    (worth : α) (i : Fin m.size) :
    (ofLabels m labels worth).assignment[i.val]? = some ((labelsInUse labels).idxOf (labels i)) := by
  simp [ofLabels, labelsInUse]

/-- The cluster of a row is the one of its label. -/
theorem getElem?_assignment_eq_iff (m : InformationMatrix α) (labels : Fin m.size → Nat)
    (worth : α) (i : Fin m.size) (c : Nat) :
    (ofLabels m labels worth).assignment[i.val]? = some c ↔
      (labelsInUse labels)[c]? = some (labels i) := by
  rw [getElem?_assignment_ofLabels, Option.some_inj, idxOf_labelsInUse_eq_iff]

/-- A cluster has the rows of its label. -/
theorem members_ofLabels {c : Nat} {label : Nat} (h : (labelsInUse labels)[c]? = some label) :
    (ofLabels m labels worth).members c = (rowsWith labels label).map Fin.val := by
  have hzip : (ofLabels m labels worth).assignment.zipIdx =
      (List.finRange m.size).map fun i => ((labelsInUse labels).idxOf (labels i), i.val) :=
    List.ext_getElem (by simp [ofLabels]) fun i h₁ h₂ => by simp [ofLabels, labelsInUse]
  have hrow : ∀ i : Fin m.size,
      ((labelsInUse labels).idxOf (labels i) == c) = decide (labels i = label) := fun i => by
    have hiff := getElem?_assignment_eq_iff m labels worth i c
    rw [getElem?_assignment_ofLabels, Option.some_inj, h, Option.some_inj] at hiff
    rw [Bool.eq_iff_iff, beq_iff_eq, decide_eq_true_eq, hiff]
    exact eq_comm
  rw [members, hzip, List.filter_map, List.map_map, rowsWith]
  simp only [Function.comp_def, hrow]

/-- What is known of a cluster is the number of the rows of its label and their mean
information. -/
theorem getElem?_parts_ofLabels (m : InformationMatrix α) (labels : Fin m.size → Nat) (worth : α)
    (c : Nat) :
    (ofLabels m labels worth).parts[c]? = ((labelsInUse labels)[c]?).map fun label =>
      ⟨(rowsWith labels label).length, m.pairMean (rowsWith labels label)⟩ := by
  simp [ofLabels, labelsInUse]

end Partition

end LogAnomaly
