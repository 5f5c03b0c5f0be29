import LogAnomaly.Proofs.Information.Matrix
import LogAnomaly.Proofs.Training.Answers
import Mathlib.Data.List.Pairwise

/-!
# Coherent models

The parts of a trained model fit each other and the intervals that the model comes from. Four
numberings meet in it: the messages, the rows of the matrix, the clusters of the partition and the
used ones of them.

* `Model.Coherent`: what fits what;
* `coherent_of_rows`: a model is coherent if its assignments are given row by row and each of its
  clusters tells about the rows that are assigned to it;
* `train_coherent`: so every trained model is.
-/

namespace LogAnomaly

/-! ## Models -/

namespace Model

/-- The members of a cluster are the messages that the model finds in it. -/
theorem mem_members {model : Model} {id c : Nat} :
    id ∈ model.members c ↔ model.cluster? id = some c := by
  simp [members, cluster?, IdMap.get?_eq_some_iff]

/-- The parts of a model fit each other and the intervals that it was trained on. -/
structure Coherent (config : TrainingSettings) (intervals : List Interval) (model : Model) :
    Prop where
  /-- It knows the messages that occur. -/
  knows_iff : ∀ id, model.knows id ↔ ∃ interval ∈ intervals, interval.contains id
  intervals_eq : model.intervals = max 1 intervals.length
  /-- Only messages that appear often enough are in a cluster, and the cluster is there. -/
  of_cluster : ∀ id c, model.cluster? id = some c →
    model.knows id ∧ config.minAppearances < appearances intervals id ∧ c < model.clusters.length
  /-- A cluster is found at its number, and it tells the number of its members. -/
  of_getElem : ∀ c info, model.clusters[c]? = some info →
    info.clusterId = c ∧ info.size = (model.members c).length ∧ 0 < info.size
  /-- A cluster tells the mean over the rows of its members. -/
  meanInfo_eq : ∀ c info, model.clusters[c]? = some info →
    ∃ rows, model.members c = rows.map (config.matrix intervals).ids.get ∧
      info.meanInfo = (config.matrix intervals).pairMean rows
  /-- The clusters come in the order that they had before some were left out. -/
  rawIndex : (model.clusters.map (·.rawIndex)).Pairwise (· < ·)

/-- The clusters of a model are those that a filter leaves of a partition of the rows. -/
structure LeftOf (config : TrainingSettings) (intervals : List Interval) (p : Partition Float)
    (f : Filtered Float) (model : Model) : Prop where
  minClusterSize_le : ∀ info ∈ model.clusters, config.minClusterSize ≤ info.size
  /-- There is one verdict about each cluster of the partition. -/
  verdicts_eq : f.verdicts.map (·.rawIndex) = List.range p.parts.length
  /-- A message is in the cluster that was left of the one of its row. -/
  cluster?_iff : ∀ (i : Fin (config.matrix intervals).size) c,
    model.cluster? ((config.matrix intervals).ids.get i) = some c ↔
      ∃ info, model.clusters[c]? = some info ∧ p.assignment[i.val]? = some info.rawIndex
  /-- Just one cluster of the partition has the lowest score. -/
  count_eq_one : f.count .lowestScore = 1
  /-- Its messages are in no cluster of the model. -/
  cluster?_eq_none : ∀ v ∈ f.verdicts, v.decision = .lowestScore →
    ∀ i : Fin (config.matrix intervals).size, p.assignment[i.val]? = some v.rawIndex →
      model.cluster? ((config.matrix intervals).ids.get i) = none

end Model

/-! ## Assignments row by row -/

section Rows

variable {config : TrainingSettings} {intervals : List Interval} {model : Model}

/-- The entries of the rows that have a cluster. -/
def rowEntries (ids : List Nat) (cluster : Fin ids.length → Option Nat) : List (Nat × Nat) :=
  (List.finRange ids.length).filterMap fun i => (cluster i).map fun c => (ids.get i, c)

/-- The rows of a cluster. -/
def rowsIn {n : Nat} (cluster : Fin n → Option Nat) (c : Nat) : List (Fin n) :=
  (List.finRange n).filter fun i => cluster i = some c

variable {ids : List Nat} {cluster : Fin ids.length → Option Nat}

theorem pairwise_rowEntries (h : ids.Pairwise (· < ·)) (cluster : Fin ids.length → Option Nat) :
    (rowEntries ids cluster).Pairwise fun a b => a.1 < b.1 := by
  refine (List.pairwise_lt_finRange ids.length).filterMap _ fun i j hij a ha b hb => ?_
  obtain ⟨_, -, rfl⟩ := Option.map_eq_some_iff.1 ha
  obtain ⟨_, -, rfl⟩ := Option.map_eq_some_iff.1 hb
  exact List.pairwise_iff_get.1 h i j hij

theorem mem_rowEntries {id c : Nat} :
    (id, c) ∈ rowEntries ids cluster ↔ ∃ i, ids.get i = id ∧ cluster i = some c := by
  simp [rowEntries, and_comm]

/-- The messages of a cluster are those of its rows. -/
theorem members_rowEntries (c : Nat) :
    ((rowEntries ids cluster).filter (·.2 == c)).map (·.1) =
      (rowsIn cluster c).map ids.get := by
  rw [rowEntries, rowsIn]
  induction List.finRange ids.length with
  | nil => rfl
  | cons i rows ih =>
    cases hi : cluster i with
    | none => simpa [List.filterMap_cons, hi] using ih
    | some d =>
      by_cases hd : d = c <;> simpa [List.filterMap_cons, hi, hd] using ih

/-- A model is coherent if each of its clusters tells about the rows that are assigned to it. -/
theorem coherent_of_rows {cluster : Fin (config.matrix intervals).size → Option Nat}
    (hseen : model.seen = occurring intervals)
    (hintervals : model.intervals = max intervals.length 1)
    (hassign : model.assignments.toList = rowEntries (config.matrix intervals).ids cluster)
    (hlt : ∀ i c, cluster i = some c → c < model.clusters.length)
    (hcluster : ∀ c info, model.clusters[c]? = some info →
      info.clusterId = c ∧ info.size = (rowsIn cluster c).length ∧ 0 < info.size ∧
        info.meanInfo = (config.matrix intervals).pairMean (rowsIn cluster c))
    (hraw : (model.clusters.map (·.rawIndex)).Pairwise (· < ·)) :
    model.Coherent config intervals := by
  have hmembers : ∀ c, model.members c =
      (rowsIn cluster c).map (config.matrix intervals).ids.get := fun c => by
    rw [Model.members, hassign, members_rowEntries]
  have hknows : ∀ id, model.knows id ↔ ∃ interval ∈ intervals, interval.contains id := fun id => by
    rw [Model.knows, hseen, IdSet.contains, List.contains_iff_mem, mem_occurring]
  refine ⟨hknows, hintervals.trans (Nat.max_comm _ _), fun id c h => ?_, fun c info h => ?_,
    fun c info h => ?_, hraw⟩
  · rw [Model.cluster?, IdMap.get?_eq_some_iff, hassign, mem_rowEntries] at h
    obtain ⟨i, rfl, hi⟩ := h
    have happears := mem_survivors.1 (List.get_mem _ i)
    exact ⟨(hknows _).2 (appearances_pos.1 (Nat.zero_lt_of_lt happears)), happears, hlt i c hi⟩
  · obtain ⟨hid, hsize, hpos, -⟩ := hcluster c info h
    exact ⟨hid, by rw [hmembers, List.length_map]; exact hsize, hpos⟩
  · exact ⟨_, hmembers c, (hcluster c info h).2.2.2⟩

end Rows

/-! ## Every message a cluster of its own -/

section Singletons

variable {config : TrainingSettings} {intervals : List Interval} (stamp : Stamp)

theorem rowEntries_val (ids : List Nat) : rowEntries ids (fun i => some i.val) = ids.zipIdx := by
  refine List.ext_getElem (by simp [rowEntries]) fun i h₁ h₂ => ?_
  simp [rowEntries]

theorem assignments_singletons (config : TrainingSettings) (intervals : List Interval) :
    (Model.singletons stamp (config.matrix intervals)).assignments.toList =
      rowEntries (config.matrix intervals).ids fun i => some i.val := by
  have hpairs := pairwise_rowEntries (pairwise_survivors config.minAppearances intervals)
    fun i => some i.val
  rw [rowEntries_val] at hpairs ⊢
  exact IdMap.toList_ofList hpairs

theorem rowsIn_val {n : Nat} (i : Fin n) : rowsIn (fun j : Fin n => some j.val) i.val = [i] := by
  simp only [rowsIn, Option.some_inj]
  exact rowsWith_val i

/-- Every message is a cluster of its own. -/
theorem members_singletons {id : Nat} (h : config.minAppearances < appearances intervals id) :
    ∃ c, (Model.singletons stamp (config.matrix intervals)).members c = [id] := by
  obtain ⟨i, rfl⟩ : ∃ i, (config.matrix intervals).ids.get i = id :=
    List.get_of_mem (mem_survivors.2 h)
  refine ⟨i.val, ?_⟩
  rw [Model.members, assignments_singletons, members_rowEntries, rowsIn_val]
  rfl

theorem coherent_singletons (config : TrainingSettings) (intervals : List Interval) :
    (Model.singletons stamp (config.matrix intervals)).Coherent config intervals := by
  refine coherent_of_rows rfl rfl (assignments_singletons stamp config intervals) ?_ ?_ ?_
  · rintro i c ⟨⟩
    simp [Model.singletons]
  · intro c info hinfo
    rw [Model.singletons, List.getElem?_map, Option.map_eq_some_iff] at hinfo
    obtain ⟨c', hc, rfl⟩ := hinfo
    obtain ⟨hlt, rfl⟩ := List.getElem?_eq_some_iff.1 hc
    rw [List.length_range] at hlt
    rw [List.getElem_range, rowsIn_val ⟨c, hlt⟩]
    exact ⟨rfl, rfl, Nat.zero_lt_one, rfl⟩
  · simp [Model.singletons, Function.comp_def, List.pairwise_lt_range]

end Singletons

/-! ## The clusters that a filter leaves -/

section OfFiltered

variable {m : InformationMatrix Float} {rule : FilterRule Float} {labels : Fin m.size → Nat}
  {worth : Float} {f : Filtered Float} (stamp : Stamp)

theorem rowEntries_zip {ids : List Nat} {assignment : List (Option Nat)}
    (h : assignment.length = ids.length) :
    ((ids.zip assignment).filterMap fun (id, cluster) => cluster.map fun cluster => (id, cluster)) =
      rowEntries ids fun i => (assignment[i.val]?).join := by
  have hzip : ids.zip assignment =
      (List.finRange ids.length).map fun i => (ids.get i, (assignment[i.val]?).join) := by
    refine List.ext_getElem (by simp [h]) fun i h₁ h₂ => ?_
    have hi : i < assignment.length := (List.lt_length_right_of_zip h₁)
    simp [hi]
  rw [hzip, List.filterMap_map]
  rfl

variable (hids : m.ids.Pairwise (· < ·))
  (h : (Partition.ofLabels m labels worth).filter m rule = .ok f)
include hids h

theorem assignments_ofFiltered :
    (Model.ofFiltered stamp m f).assignments.toList =
      rowEntries m.ids fun i => (f.assignment[i.val]?).join := by
  obtain ⟨-, -, -, -, hassign⟩ := filter_eq_ok h
  have hlen : f.assignment.length = m.ids.length := by
    rw [hassign, List.length_map, Partition.length_assignment_ofLabels]
  have hpairs := pairwise_rowEntries hids fun i => (f.assignment[i.val]?).join
  rw [← rowEntries_zip hlen] at hpairs ⊢
  exact IdMap.toList_ofList hpairs

/-- A message is in a used cluster if its row was in that cluster of the partition. -/
theorem cluster?_ofFiltered_iff {i : Fin m.size} {c : Nat} :
    (Model.ofFiltered stamp m f).cluster? (m.ids.get i) = some c ↔
      ∃ v, f.used[c]? = some v ∧
        (Partition.ofLabels m labels worth).assignment[i.val]? = some v.rawIndex := by
  rw [Model.cluster?, IdMap.get?_eq_some_iff, assignments_ofFiltered stamp hids h,
    ← getElem?_assignment_iff h, mem_rowEntries]
  constructor
  · rintro ⟨j, hj, hc⟩
    have hnodup : m.ids.Nodup := hids.imp Nat.ne_of_lt
    obtain rfl : j = i := hnodup.injective_get hj
    exact Option.join_eq_some_iff.1 hc
  · intro hc
    exact ⟨i, rfl, Option.join_eq_some_iff.2 hc⟩

omit hids h in
theorem getElem?_clusters_ofFiltered (f : Filtered Float) (c : Nat) :
    (Model.ofFiltered stamp m f).clusters[c]? =
      (f.used[c]?).map fun v => ⟨c, v.size, v.meanInfo, v.rawIndex⟩ := by
  rw [Model.ofFiltered, List.getElem?_map, List.getElem?_zipIdx]
  cases f.used[c]? <;> simp

omit hids in
/-- The rows of a used cluster are those of its label. -/
theorem rowsIn_ofFiltered {c label : Nat} {v : Verdict Float} (hv : f.used[c]? = some v)
    (hlabel : (labelsInUse labels)[v.rawIndex]? = some label) :
    rowsIn (fun i : Fin m.size => (f.assignment[i.val]?).join) c = rowsWith labels label := by
  refine List.filter_congr fun i _ => ?_
  rw [decide_eq_decide, Option.join_eq_some_iff, getElem?_assignment_iff h]
  constructor
  · rintro ⟨v', hv', hraw⟩
    obtain rfl : v = v' := Option.some.inj (hv.symm.trans hv')
    rw [Partition.getElem?_assignment_eq_iff, hlabel] at hraw
    exact (Option.some.inj hraw).symm
  · intro hi
    exact ⟨v, hv, (Partition.getElem?_assignment_eq_iff ..).2 (hi ▸ hlabel)⟩

end OfFiltered

theorem coherent_ofFiltered {config : TrainingSettings} {intervals : List Interval}
    {labels : Fin (config.matrix intervals).size → Nat} {worth : Float} {f : Filtered Float}
    (stamp : Stamp)
    (h : (Partition.ofLabels (config.matrix intervals) labels worth).filter
      (config.matrix intervals) config.filterRule = .ok f) :
    (Model.ofFiltered stamp (config.matrix intervals) f).Coherent config intervals := by
  have hids := pairwise_survivors config.minAppearances intervals
  refine coherent_of_rows rfl rfl (assignments_ofFiltered stamp hids h) ?_ ?_ ?_
  · intro i c hc
    obtain ⟨v, hv, -⟩ := (getElem?_assignment_iff h).1 (Option.join_eq_some_iff.1 hc)
    obtain ⟨hlt, -⟩ := List.getElem?_eq_some_iff.1 hv
    simpa [Model.ofFiltered] using hlt
  · intro c info hinfo
    rw [getElem?_clusters_ofFiltered, Option.map_eq_some_iff] at hinfo
    obtain ⟨v, hv, rfl⟩ := hinfo
    obtain ⟨label, hlabel, -, hsize, hmean⟩ := used_ofLabels h hv
    rw [rowsIn_ofFiltered h hv hlabel]
    have hpos := rowsWith_pos (List.mem_of_getElem? hlabel)
    exact ⟨rfl, hsize, hsize ▸ hpos, hmean⟩
  · have hraw : (Model.ofFiltered stamp (config.matrix intervals) f).clusters.map (·.rawIndex) =
        f.used.map (·.rawIndex) := by
      refine List.ext_getElem? fun c => ?_
      rw [List.getElem?_map, getElem?_clusters_ofFiltered, List.getElem?_map, Option.map_map]
      rfl
    rw [hraw]
    exact pairwise_rawIndex_used h

theorem leftOf_ofFiltered {config : TrainingSettings} {intervals : List Interval}
    {labels : Fin (config.matrix intervals).size → Nat} {worth : Float} {f : Filtered Float}
    (stamp : Stamp) (hpos : 0 < (config.matrix intervals).size)
    (h : (Partition.ofLabels (config.matrix intervals) labels worth).filter
      (config.matrix intervals) config.filterRule = .ok f) :
    (Model.ofFiltered stamp (config.matrix intervals) f).LeftOf config intervals
      (.ofLabels (config.matrix intervals) labels worth) f := by
  have hids := pairwise_survivors config.minAppearances intervals
  have hparts : (Partition.ofLabels (config.matrix intervals) labels worth).parts ≠ [] := by
    rw [← List.length_pos_iff, Partition.length_parts_ofLabels]
    exact List.length_pos_of_mem (mem_labelsInUse.2 ⟨⟨0, hpos⟩, rfl⟩)
  refine ⟨fun info hinfo => ?_, rawIndex_verdicts h, fun i c => ?_, count_lowestScore h hparts,
    fun v hv hlowest i hi => ?_⟩
  · obtain ⟨c, hc⟩ := List.getElem?_of_mem hinfo
    rw [getElem?_clusters_ofFiltered, Option.map_eq_some_iff] at hc
    obtain ⟨v, hv, rfl⟩ := hc
    obtain ⟨label, -, hmin, -⟩ := used_ofLabels h hv
    exact hmin
  · rw [cluster?_ofFiltered_iff stamp hids h, getElem?_clusters_ofFiltered]
    simp only [Option.map_eq_some_iff]
    constructor
    · rintro ⟨v, hv, hraw⟩
      exact ⟨_, ⟨v, hv, rfl⟩, hraw⟩
    · rintro ⟨_, ⟨v, hv, rfl⟩, hraw⟩
      exact ⟨v, hv, hraw⟩
  · -- a used cluster is not the one with the lowest score
    refine Option.eq_none_iff_forall_ne_some.2 fun c hc => ?_
    obtain ⟨v', hv', hraw⟩ := (cluster?_ofFiltered_iff stamp hids h).1 hc
    have hplace := getElem?_rawIndex h ((getElem?_used_iff h).1 hv').1
    have hused : v'.decision = .used := by
      simpa using (List.mem_filter.1 (List.mem_of_getElem? hv')).2
    rw [← Option.some.inj (hi.symm.trans hraw), getElem?_rawIndex h hv] at hplace
    rw [← Option.some.inj hplace, hlowest] at hused
    cases hused

/-! ## Training -/

section Training

variable {t : Trainer} {stamp : Stamp} {intervals : List Interval} {initial : StartingPoint}

theorem Trainer.coherent_of_train {r : TrainingResult}
    (h : t.train stamp intervals initial = .ok r) : r.model.Coherent t.config intervals := by
  rcases train_cases h with ⟨-, hmodel⟩ | ⟨-, labels, worth, f, hf, -, hmodel⟩
  · rw [hmodel]
    exact coherent_singletons stamp t.config intervals
  · rw [hmodel]
    exact coherent_ofFiltered stamp hf

/-- Every trained model is coherent. If fewer than three messages appear often enough, then each of
these is a cluster of its own. Otherwise the clusters are those that a filter leaves of a
partition. -/
theorem train_coherent {r : TrainingResult} (h : t.train stamp intervals initial = .ok r) :
    r.model.Coherent t.config intervals ∧
    ((InformationMatrix.survivors t.config.minAppearances intervals).length < 3 →
      ∀ id, t.config.minAppearances < appearances intervals id →
        ∃ c, r.model.members c = [id]) ∧
    (3 ≤ (InformationMatrix.survivors t.config.minAppearances intervals).length →
      ∃ p f, r.search = some (p, f) ∧ r.model.LeftOf t.config intervals p f) := by
  rcases Trainer.train_cases h with ⟨hsize, hmodel⟩ | ⟨hsize, labels, worth, f, hf, hsearch, hmodel⟩
  · rw [hmodel]
    exact ⟨coherent_singletons stamp t.config intervals,
      fun _ id hid => members_singletons stamp hid, fun h3 => absurd hsize (Nat.not_lt.2 h3)⟩
  · rw [hmodel]
    exact ⟨coherent_ofFiltered stamp hf, fun hlt => absurd hlt (Nat.not_lt.2 hsize),
      fun _ => ⟨_, f, hsearch, leftOf_ofFiltered stamp (Nat.zero_lt_of_lt hsize) hf⟩⟩

end Training

theorem train_coherent_trio :
    ∃ r, usualTrainer.train zeroStamp trioIntervals .none = .ok r ∧
      r.model.Coherent {} trioIntervals ∧
      ∃ p f, r.search = some (p, f) ∧ r.model.LeftOf {} trioIntervals p f := by
  obtain ⟨r, hr⟩ := usualTrainer.exists_train_eq_ok zeroStamp trioIntervals .none nofun
  obtain ⟨hcoherent, -, hleft⟩ := train_coherent hr
  exact ⟨r, hr, hcoherent, hleft three_le_survivors_trio⟩

end LogAnomaly
