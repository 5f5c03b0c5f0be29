import LogAnomaly.Proofs.Partition.Climb
import LogAnomaly.Proofs.Partition.Verdicts

/-!
# Partitions of all rows

What a search answers is a partition of the rows of its matrix.

* `Partition.Covers`: every row is in one cluster, and a cluster tells about its members;
* `Partition.Renames`: a partition has the clusters of some labels, in the order of the labels;
* `Partition.covers_ofLabels`, `Partition.renames_ofLabels`: so it is with the partition of any
  labels;
* `search_covers`: so it is with every answer of a search, which are the labels of its best run.
-/

namespace LogAnomaly

/-! ## Partitions of labels -/

namespace Partition

section

variable {α : Type} [Add α] [Div α] [NatCast α]

/-- A partition has every row of a matrix in one of its clusters, none of which is empty, and tells
of each cluster the number and the mean of its members. -/
structure Covers (m : InformationMatrix α) (p : Partition α) : Prop where
  /-- There is a cluster for every row. -/
  length_assignment : p.assignment.length = m.size
  lt_length_parts : ∀ c ∈ p.assignment, c < p.parts.length
  size_eq : ∀ c part, p.parts[c]? = some part →
    part.size = (p.members c).length ∧ 0 < part.size
  sum_sizes : (p.parts.map (·.size)).sum = m.size
  score_eq : ∀ c part, p.parts[c]? = some part → m.pairMean? (p.members c) = some part.score

/-- Two rows are in one cluster if they have the same label, and their clusters come in the order of
their labels. -/
def Renames {n : Nat} (labels : Fin n → Nat) (p : Partition α) : Prop :=
  ∀ (i j : Fin n) c d, p.assignment[i.val]? = some c → p.assignment[j.val]? = some d →
    (c = d ↔ labels i = labels j) ∧ (c < d ↔ labels i < labels j)

variable (m : InformationMatrix α) (labels : Fin m.size → Nat) (worth : α)

/-- Each row has one label. -/
theorem sum_length_rowsWith {n : Nat} (labels : Fin n → Nat) :
    ((labelsInUse labels).map fun label => (rowsWith labels label).length).sum = n := by
  have hmaps : Set.MapsTo labels (Finset.univ : Finset (Fin n)) (labelsInUse labels).toFinset :=
    fun i _ => List.mem_toFinset.2 (mem_labelsInUse.2 ⟨i, rfl⟩)
  calc ((labelsInUse labels).map fun label => (rowsWith labels label).length).sum
      = ∑ label ∈ (labelsInUse labels).toFinset, (labelled labels label).card := by
        rw [List.sum_toFinset _ (nodup_labelsInUse labels)]
        simp only [length_rowsWith]
    _ = (Finset.univ : Finset (Fin n)).card := (Finset.card_eq_sum_card_fiberwise hmaps).symm
    _ = n := by rw [Finset.card_univ, Fintype.card_fin]

theorem covers_ofLabels : (ofLabels m labels worth).Covers m where
  length_assignment := length_assignment_ofLabels m labels worth
  lt_length_parts c hc := by
    obtain ⟨i, rfl⟩ := List.mem_ofFn.1 hc
    rw [length_parts_ofLabels]
    exact List.idxOf_lt_length_of_mem (mem_labelsInUse.2 ⟨i, rfl⟩)
  size_eq c part hpart := by
    rw [getElem?_parts_ofLabels, Option.map_eq_some_iff] at hpart
    obtain ⟨label, hlabel, rfl⟩ := hpart
    rw [members_ofLabels hlabel, List.length_map]
    exact ⟨rfl, rowsWith_pos (List.mem_of_getElem? hlabel)⟩
  sum_sizes := by
    rw [ofLabels, List.map_map]
    exact sum_length_rowsWith labels
  score_eq c part hpart := by
    rw [getElem?_parts_ofLabels, Option.map_eq_some_iff] at hpart
    obtain ⟨label, hlabel, rfl⟩ := hpart
    rw [members_ofLabels hlabel, pairMean?_rows]

theorem renames_ofLabels : (ofLabels m labels worth).Renames labels := by
  intro i j c d hc hd
  rw [getElem?_assignment_ofLabels, Option.some_inj] at hc hd
  have hi : labels i ∈ labelsInUse labels := mem_labelsInUse.2 ⟨i, rfl⟩
  have hj : labels j ∈ labelsInUse labels := mem_labelsInUse.2 ⟨j, rfl⟩
  rw [← hc, ← hd]
  exact ⟨List.idxOf_inj hi, idxOf_lt_idxOf_iff (pairwise_labelsInUse labels) hi hj⟩

/-- Labels below a number give no more clusters than that. -/
theorem length_parts_le {k : Nat} (h : ∀ i, labels i < k) :
    (ofLabels m labels worth).parts.length ≤ k := by
  have hsub : labelsInUse labels ⊆ List.range k := fun label hlabel => by
    obtain ⟨i, rfl⟩ := mem_labelsInUse.1 hlabel
    exact List.mem_range.2 (h i)
  rw [length_parts_ofLabels]
  simpa using (List.subperm_of_subset (nodup_labelsInUse labels) hsub).length_le

/-- If every row has its own number as a label, then each is a cluster of its own. -/
theorem ofLabels_val (m : InformationMatrix α) (worth : α) :
    (ofLabels m (fun i => i.val) worth).assignment = List.range m.size ∧
      (ofLabels m (fun i => i.val) worth).parts =
        List.replicate m.size ⟨1, ((0 : Nat) : α)⟩ := by
  constructor
  · refine List.ext_getElem? fun i => ?_
    by_cases hi : i < m.size
    · have hrange : (List.range m.size)[i]? = some i := List.getElem?_range hi
      rw [hrange, getElem?_assignment_eq_iff m _ worth ⟨i, hi⟩, labelsInUse_val, hrange]
    · rw [List.getElem?_eq_none (by simpa [length_assignment_ofLabels] using hi),
        List.getElem?_eq_none (by simpa using hi)]
  · refine List.ext_getElem? fun c => ?_
    rw [getElem?_parts_ofLabels, labelsInUse_val, List.getElem?_replicate]
    split
    · rename_i hc
      rw [List.getElem?_range hc, Option.map_some, rowsWith_val ⟨c, hc⟩]
      rfl
    · rename_i hc
      rw [List.getElem?_eq_none (by simpa using hc), Option.map_none]

end

end Partition

/-! ## The answer of a search -/

section Search

variable {α : Type} [Add α] [Sub α] [Div α] [NatCast α] [LT α] [DecidableLT α]

open LogAnomaly.Partition in
/-- A search answers unless it is given labels that do not fit, and what it answers is a partition
of all rows. Fewer than three rows are clusters of their own. Of more rows there are at most as many
clusters as may be used, and they are the labels of the best run under other numbers. -/
theorem search_covers (objective : Objective α) (m : InformationMatrix α) (params : SearchParams)
    (initial : Option (List Nat)) (hclusters : params.numClusters ≠ 0)
    (hruns : params.numRuns ≠ 0) :
    let k := usableClusters params.numClusters m.size
    ((∃ p, search objective m params initial = .ok p) ↔
      (3 ≤ m.size → ∀ labels, initial = some labels → Fitting m.size k labels)) ∧
    ∀ p, search objective m params initial = .ok p →
      p.Covers m ∧
      (m.size < 3 → p.assignment = List.range m.size ∧
        p.parts = List.replicate m.size ⟨1, ((0 : Nat) : α)⟩) ∧
      (3 ≤ m.size → p.parts.length ≤ k ∧
        ∃ (hn : 0 < m.size) (hk : 0 < k) (start : Option (Vector (Fin k) m.size)),
          checkInitial? m.size hk initial = .ok start ∧
          let result := searchRun objective m hn hk params start
          ∃ run < params.numRuns, bestRun result (params.numRuns - 1) = result run ∧
            p.objective = (result run).objective ∧ p.Renames (result run).label) := by
  intro k
  constructor
  · rcases search_cases objective m initial hclusters hruns with
      ⟨hfit, hok⟩ | ⟨h3, labels, fault, hinitial, hmisfit, herror⟩
    · exact iff_of_true hok hfit
    · refine iff_of_false ?_ fun hfit => hmisfit.not_fitting (hfit h3 labels hinitial)
      rintro ⟨p, hp⟩
      rw [herror] at hp
      cases hp
  · intro p hp
    obtain ⟨labels, worth, rfl⟩ := search_eq_ofLabels hp
    refine ⟨covers_ofLabels m labels worth, fun h3 => ?_, fun h3 => ?_⟩
    · rw [search_few objective initial hclusters hruns h3] at hp
      rw [← Except.ok.inj hp]
      exact ofLabels_val m _
    · have hn : 0 < m.size := Nat.zero_lt_of_lt h3
      have hk : 0 < k := usableClusters_pos hclusters
      cases hstart : checkInitial? m.size hk initial with
      | error e =>
        rw [search_eq_error objective h3 hclusters hruns hk hstart] at hp
        cases hp
      | ok start =>
        rw [search_eq_ok objective h3 hclusters hruns hn hk hstart] at hp
        obtain ⟨run, hrun, hbest⟩ :=
          bestRun_mem (searchRun objective m hn hk params start) (params.numRuns - 1)
        rw [← Except.ok.inj hp, hbest]
        exact ⟨length_parts_le m _ _ fun e => Fin.isLt _, hn, hk, start, hstart, run,
          by omega, hbest, rfl, renames_ofLabels m _ _⟩

end Search

open SearchState in
theorem search_covers_trio :
    ∃ p, Partition.search insideSum trio pairParams (some [1, 0, 1]) = .ok p ∧
      p.Covers trio ∧ p.parts.length ≤ 2 := by
  obtain ⟨hok, hcovers⟩ :=
    search_covers insideSum trio pairParams (some [1, 0, 1]) (by decide) (by decide)
  obtain ⟨p, hp⟩ := hok.2 fun _ labels hlabels => by
    obtain rfl := Option.some.inj hlabels
    exact ⟨rfl, by decide⟩
  obtain ⟨hall, -, hmany⟩ := hcovers p hp
  exact ⟨p, hp, hall, (hmany (by decide)).1⟩

end LogAnomaly
