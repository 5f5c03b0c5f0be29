import LogAnomaly.Proofs.Partition.Cover
import Mathlib.Analysis.SpecialFunctions.Log.Basic
import Mathlib.Data.Nat.Choose.Basic

/-!
# What an answer is worth

What a search says its answer is worth is computed from the labels of a run, some of which may have
no rows, and before they get their final numbers. It is what the clusters of the answer are worth.

* `Partition.search_eq_ofLabels_worth`: every answer is the partition of some labels, with what
  these are worth;
* `labelsWorth_eq_sum_inUse`: labels without rows give nothing;
* `Objective.information_worth`: what a cluster gives under the usual objective, from its size and
  its score;
* `search_worth_of_clusters`: so an answer is worth the sum over its clusters.
-/

namespace LogAnomaly

open Finset

/-! ## The labels of an answer -/

section Search

variable {α : Type} [Add α] [Sub α] [Div α] [NatCast α] [LT α] [DecidableLT α]
  {objective : Objective α} {m : InformationMatrix α} {params : SearchParams}
  {initial : Option (List Nat)}

theorem Partition.search_eq_ofLabels_worth {p : Partition α}
    (h : search objective m params initial = .ok p) :
    ∃ (k : Nat) (labels : Fin m.size → Nat), (∀ i, labels i < k) ∧
      p = ofLabels m labels (labelsWorth objective m k labels) := by
  unfold search at h
  split at h
  · cases h
  split at h
  · cases h
  split at h
  · refine ⟨m.size, fun i => i.val, fun i => i.isLt, ?_⟩
    rw [← Except.ok.inj h, compact_eq_ofLabels, evaluate_eq_labelsWorth]
    simp only [SearchState.get_ofFn]
  · dsimp only at h
    split at h
    · cases h
    · rename_i start _
      obtain ⟨run, -, hbest⟩ := bestRun_mem (searchRun objective m _ _ params start)
        (params.numRuns - 1)
      rw [hbest, compact_eq_ofLabels, searchRun_objective_eq] at h
      exact ⟨_, _, fun i => Fin.isLt _, (Except.ok.inj h).symm⟩

end Search

/-! ## Sums over pairs -/

theorem length_pairs {β : Type} (l : List β) :
    (pairs l).length = l.length * (l.length - 1) / 2 := by
  rw [← Nat.choose_two_right]
  induction l with
  | nil => rfl
  | cons a l ih =>
    rw [pairs, List.length_append, List.length_map, ih, List.length_cons, Nat.choose_succ_succ,
      Nat.choose_one_right]

/-- The mean of the pairs inside a cluster is the same whether it is taken of their sum or of the
pairs themselves. -/
theorem InformationMatrix.pairMean_eq {α : Type} [Add α] [Div α] [NatCast α]
    (m : InformationMatrix α) (members : List (Fin m.size)) :
    m.pairMean members =
      if members.length < 2 then ((0 : Nat) : α)
      else pairSum m members / ((members.length * (members.length - 1) / 2 : Nat) : α) := by
  have hempty (f : Fin m.size × Fin m.size → α) :
      ((pairs members).map f).isEmpty = true ↔ members.length < 2 := by
    rw [List.isEmpty_iff_length_eq_zero, List.length_map, length_pairs, ← Nat.choose_two_right,
      Nat.choose_eq_zero_iff]
  rw [pairMean, average, if_congr (hempty _) rfl rfl, List.length_map, length_pairs]
  rfl

/-- What a cluster gives under the usual objective: its score and the logarithm of its share, each
weighted by its share. -/
theorem Objective.information_worth {α : Type} [Add α] [Mul α] [Div α] [NatCast α] [Logarithm α]
    (alpha : α) (m : InformationMatrix α) {members : List (Fin m.size)} (h : members ≠ []) :
    let share : α := (members.length : α) / (m.size : α)
    (information alpha).worth members.length (pairSum m members) m.size =
      share * m.pairMean members + alpha * share * Logarithm.log share := by
  intro share
  obtain ⟨i, hi⟩ := List.exists_mem_of_ne_nil _ h
  have hn : m.size ≠ 0 := Nat.ne_of_gt (Nat.zero_lt_of_lt i.isLt)
  have hsome : ¬ (members.length = 0 ∨ m.size = 0) :=
    not_or.2 ⟨List.length_eq_zero_iff.not.2 h, hn⟩
  rw [m.pairMean_eq]
  exact if_neg hsome

/-! ## Clusters -/

section Clusters

variable {α : Type} [Field α] {objective : Objective α} {m : InformationMatrix α}
  {labels : Fin m.size → Nat}

theorem groupWorth_empty (hempty : objective.worth 0 0 m.size = 0) :
    groupWorth objective m ∅ = 0 :=
  hempty

/-- Labels without rows give nothing, so only those in use count. -/
theorem labelsWorth_eq_sum_inUse (hempty : objective.worth 0 0 m.size = 0) {k : Nat}
    (hlt : ∀ i, labels i < k) :
    labelsWorth objective m k labels =
      ((labelsInUse labels).map
        fun label => groupWorth objective m (labelled labels label)).sum := by
  have hsub : (labelsInUse labels).toFinset ⊆ range k := fun label hlabel => by
    obtain ⟨i, rfl⟩ := mem_labelsInUse.1 (List.mem_toFinset.1 hlabel)
    exact mem_range.2 (hlt i)
  rw [labelsWorth_eq_sum_range, ← List.sum_toFinset _ (nodup_labelsInUse labels)]
  refine (sum_subset hsub fun label _ hunused => ?_).symm
  have hnone : labelled labels label = ∅ := filter_eq_empty_iff.2 fun i _ hi =>
    hunused (List.mem_toFinset.2 (mem_labelsInUse.2 ⟨i, hi⟩))
  rw [hnone, groupWorth_empty hempty]

namespace Partition

/-- The rows of a cluster, as a set. -/
def rows {n : Nat} (p : Partition α) (cluster : Nat) : Finset (Fin n) :=
  univ.filter fun i => i.val ∈ p.members cluster

/-- A cluster has the rows of its label. -/
theorem rows_ofLabels {worth : α} {c label : Nat} (h : (labelsInUse labels)[c]? = some label) :
    (ofLabels m labels worth).rows c = labelled labels label := by
  ext i
  simp [rows, members_ofLabels h, ← toFinset_rowsWith, Fin.val_inj]

/-- What labels are worth is the sum over the clusters of their partition. -/
theorem labelsWorth_eq_sum_parts (hempty : objective.worth 0 0 m.size = 0) {k : Nat}
    (hlt : ∀ i, labels i < k) (worth : α) :
    labelsWorth objective m k labels =
      ((ofLabels m labels worth).parts.zipIdx.map fun (part, c) =>
        objective.worth part.size (pairTotal m.cell ((ofLabels m labels worth).rows c))
          m.size).sum := by
  rw [labelsWorth_eq_sum_inUse hempty hlt]
  refine congrArg List.sum (List.ext_getElem? fun c => ?_)
  rw [List.getElem?_map, List.getElem?_map, List.getElem?_zipIdx, getElem?_parts_ofLabels]
  cases hlabel : (labelsInUse labels)[c]? with
  | none => rfl
  | some label =>
    simp only [Option.map_some, Nat.zero_add, groupWorth, rows_ofLabels hlabel, length_rowsWith]

/-- Under the usual objective the sizes and the scores of the clusters tell what they give. -/
theorem labelsWorth_information [Logarithm α] (alpha : α) {k : Nat} (hlt : ∀ i, labels i < k)
    (worth : α) :
    labelsWorth (.information alpha) m k labels =
      ((ofLabels m labels worth).parts.map fun part =>
        let share : α := (part.size : α) / (m.size : α)
        share * part.score + alpha * share * Logarithm.log share).sum := by
  have hempty : (Objective.information alpha).worth 0 0 m.size = 0 := Nat.cast_zero
  rw [labelsWorth_eq_sum_inUse hempty hlt, ofLabels, List.map_map]
  refine congrArg List.sum (List.map_congr_left fun label hlabel => ?_)
  have hsome : rowsWith labels label ≠ [] := List.ne_nil_of_length_pos (rowsWith_pos hlabel)
  rw [groupWorth, ← length_rowsWith, ← pairSum_rowsWith, Objective.information_worth alpha m hsome]
  rfl

end Partition

end Clusters

/-! ## The answer of a search -/

/-- An answer is worth the sum over its clusters, of whatever matrix and by whatever objective for
which no elements are worth nothing. By the usual objective this is the sum of the scores and of
`alpha` times the logarithms of the shares, both weighted by the shares. -/
theorem search_worth_of_clusters {α : Type} [Field α] [LT α] [DecidableLT α]
    (m : InformationMatrix α) (params : SearchParams) (initial : Option (List Nat)) :
    (∀ (objective : Objective α) (p : Partition α),
      Partition.search objective m params initial = .ok p → objective.worth 0 0 m.size = 0 →
        p.objective = (p.parts.zipIdx.map fun (part, c) =>
          objective.worth part.size (pairTotal m.cell (p.rows c)) m.size).sum) ∧
    ∀ [Logarithm α] (alpha : α) (p : Partition α),
      Partition.search (.information alpha) m params initial = .ok p →
        p.objective = (p.parts.map fun part =>
          let share : α := (part.size : α) / (m.size : α)
          share * part.score + alpha * share * Logarithm.log share).sum := by
  constructor
  · intro objective p hp hempty
    obtain ⟨k, labels, hlt, rfl⟩ := Partition.search_eq_ofLabels_worth hp
    exact Partition.labelsWorth_eq_sum_parts hempty hlt _
  · intro _ alpha p hp
    obtain ⟨k, labels, hlt, rfl⟩ := Partition.search_eq_ofLabels_worth hp
    exact Partition.labelsWorth_information alpha hlt _

/-- Three messages; what one tells about another is not what the other tells about it. -/
def tilted : InformationMatrix ℚ where
  info := .ofCells fun i j : Fin 3 => if i < j then 1 else 0
  ids := [1, 2, 3]
  appearances := [2, 2, 2]
  intervals := 4
  seen := .ofList [1, 2, 3]
  size_info := rfl
  square := SquareMatrix.size_data_ofCells _

/-- Two messages. -/
noncomputable def twosome : InformationMatrix ℝ where
  info := .ofCells fun i j : Fin 2 => if i = j then 0 else 1
  ids := [1, 2]
  appearances := [2, 2]
  intervals := 4
  seen := .ofList [1, 2]
  size_info := rfl
  square := SquareMatrix.size_data_ofCells _

noncomputable instance realLogarithm : Logarithm ℝ := ⟨Real.log⟩

open SearchState in
/-- Two messages are left apart, and half of the logarithm of one half is given by each. -/
theorem search_worth_of_clusters_tilted :
    (∃ p, Partition.search insideSum tilted pairParams none = .ok p ∧
      insideSum.worth 0 0 tilted.size = 0 ∧
      p.objective = (p.parts.zipIdx.map fun (part, c) =>
        insideSum.worth part.size (pairTotal tilted.cell (p.rows c)) tilted.size).sum) ∧
    ∃ p, Partition.search (.information 1) twosome pairParams none = .ok p ∧
      p.objective = -Real.log 2 := by
  constructor
  · have hk : 0 < usableClusters pairParams.numClusters tilted.size := by decide
    have hstart : checkInitial? tilted.size hk none = .ok none := rfl
    have hfound := Partition.search_eq_ok insideSum (by decide)
      (by decide : pairParams.numClusters ≠ 0) (by decide) (by decide) hk hstart
    have hnone : insideSum.worth 0 0 tilted.size = 0 := by decide +kernel
    exact ⟨_, hfound, hnone, (search_worth_of_clusters tilted pairParams none).1 _ _ hfound hnone⟩
  · have hfew := Partition.search_few (Objective.information (1 : ℝ)) none
      (by decide : pairParams.numClusters ≠ 0) (by decide) (by decide : twosome.size < 3)
    refine ⟨_, hfew, ?_⟩
    rw [(search_worth_of_clusters twosome pairParams none).2 1 _ hfew,
      (Partition.ofLabels_val twosome _).2]
    have hlog : Real.log (1 / 2) = -Real.log 2 := by rw [one_div, Real.log_inv]
    show ((List.replicate 2 (⟨1, ((0 : Nat) : ℝ)⟩ : Part ℝ)).map fun part =>
      let share : ℝ := (part.size : ℝ) / ((2 : Nat) : ℝ)
      share * part.score + 1 * share * Real.log share).sum = _
    norm_num [List.replicate, hlog]
    ring

end LogAnomaly
