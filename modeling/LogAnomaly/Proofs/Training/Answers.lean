import LogAnomaly.Proofs.Information.Matrix
import LogAnomaly.Proofs.Partition.Search
import LogAnomaly.Proofs.Partition.Verdicts
import LogAnomaly.Proofs.Time.Parts
import LogAnomaly.Training.Trainer
import Mathlib.Data.List.Perm.Subperm

/-!
# What a training answers

* `StartingPoint.fitting_labelsFrom`: the clusters of another model always fit, whatever they are;
* `Trainer.train_eq_ok`, `Trainer.train_cases`: the model of a training is that of its search;
* `train_refused_iff`: a training is refused only for an assignment that does not fit the messages
  that appear often enough.
-/

namespace LogAnomaly

/-! ## The labels to start from -/

namespace StartingPoint

theorem length_labelsFrom (previous : Model) (k fresh : Nat) (ids : List Nat) :
    (labelsFrom previous k fresh ids).length = ids.length := by
  induction ids generalizing fresh with
  | nil => rfl
  | cons id ids ih =>
    unfold labelsFrom
    split <;> rw [List.length_cons, List.length_cons, ih]

theorem labelsFrom_lt (previous : Model) {k : Nat} (hk : 0 < k) (fresh : Nat) (ids : List Nat) :
    ∀ label ∈ labelsFrom previous k fresh ids, label < k := by
  induction ids generalizing fresh with
  | nil => simp [labelsFrom]
  | cons id ids ih =>
    unfold labelsFrom
    split
    · exact List.forall_mem_cons.2 ⟨Nat.mod_lt _ hk, ih _⟩
    · exact List.forall_mem_cons.2 ⟨Nat.mod_lt _ hk, ih _⟩

/-- The clusters of another model fit, whatever their numbers are and whichever messages it has. -/
theorem fitting_labelsFrom (previous : Model) {k : Nat} (hk : 0 < k) (fresh : Nat)
    (ids : List Nat) : Fitting ids.length k (labelsFrom previous k fresh ids) :=
  ⟨length_labelsFrom previous k fresh ids, labelsFrom_lt previous hk fresh ids⟩

/-- Only labels that are given as they are may not fit. -/
theorem fitting_labels {initial : StartingPoint} (hgiven : ∀ given, initial ≠ .assignment given)
    {ids : List Nat} {k : Nat} (hk : 0 < k) {labels : List Nat}
    (h : initial.labels ids k = some labels) : Fitting ids.length k labels := by
  cases initial with
  | none => cases h
  | assignment given => exact absurd rfl (hgiven given)
  | previousModel previous =>
    rw [← Option.some.inj h]
    exact fitting_labelsFrom previous hk 0 ids

end StartingPoint

/-! ## Settings that have been checked -/

namespace Trainer

theorem searchParams_ne_zero (t : Trainer) :
    t.config.searchParams.numClusters ≠ 0 ∧ t.config.searchParams.numRuns ≠ 0 := by
  have hvalid := t.valid
  rw [TrainingSettings.validate] at hvalid
  split at hvalid
  · cases hvalid
  · have hrules := checkRules_eq_ok.1 hvalid
    simp only [TrainingSettings.rules, List.cons_append, List.forall_mem_cons,
      decide_eq_true_eq] at hrules
    exact ⟨Nat.ne_of_gt hrules.1, Nat.ne_of_gt hrules.2.1⟩

/-! ## Answers -/

variable {t : Trainer} {stamp : Stamp} {intervals : List Interval} {initial : StartingPoint}

/-- Few messages are not searched. -/
theorem train_few (stamp : Stamp) (initial : StartingPoint)
    (hsize : (t.config.matrix intervals).size < 3) :
    t.train stamp intervals initial = .ok {
      model := .singletons stamp (t.config.matrix intervals)
      rowCount := (t.config.matrix intervals).size } :=
  if_pos hsize

/-- A filter never refuses the partition that a search answers, so there is a model. -/
theorem train_eq_ok {labels : Fin (t.config.matrix intervals).size → Nat} {worth : Float}
    (stamp : Stamp) (initial : StartingPoint) (hsize : 3 ≤ (t.config.matrix intervals).size)
    (hsearch : Partition.search t.objectiveOrDefault (t.config.matrix intervals)
      t.config.searchParams (initial.labels (t.config.matrix intervals).ids
        (usableClusters t.config.numClusters (t.config.matrix intervals).size)) =
      .ok (.ofLabels (t.config.matrix intervals) labels worth)) :
    ∃ f, (Partition.ofLabels (t.config.matrix intervals) labels worth).filter
        (t.config.matrix intervals) t.config.filterRule = .ok f ∧
      t.train stamp intervals initial = .ok {
        model := .ofFiltered stamp (t.config.matrix intervals) f
        rowCount := (t.config.matrix intervals).size
        search := some (.ofLabels (t.config.matrix intervals) labels worth, f) } := by
  obtain ⟨f, hf⟩ := exists_filter (p := .ofLabels (t.config.matrix intervals) labels worth)
    t.config.filterRule (Nat.le_of_eq (Partition.length_assignment_ofLabels ..))
  refine ⟨f, hf, ?_⟩
  unfold train
  dsimp only
  rw [minSearchIds, if_neg (Nat.not_lt.2 hsize), hsearch]
  simp only [Except.mapError, bind, Except.bind, hf]
  rfl

/-- What a search is refused for, its training is refused for. -/
theorem train_eq_error (stamp : Stamp) (initial : StartingPoint)
    (hsize : 3 ≤ (t.config.matrix intervals).size) {e : TrainingError}
    (hsearch : Partition.search t.objectiveOrDefault (t.config.matrix intervals)
      t.config.searchParams (initial.labels (t.config.matrix intervals).ids
        (usableClusters t.config.numClusters (t.config.matrix intervals).size)) = .error e) :
    t.train stamp intervals initial = .error (.refused e) := by
  unfold train
  dsimp only
  rw [minSearchIds, if_neg (Nat.not_lt.2 hsize), hsearch]
  rfl

/-- Few messages are not searched; the partition of more of them is filtered. -/
theorem train_cases {r : TrainingResult} (h : t.train stamp intervals initial = .ok r) :
    ((t.config.matrix intervals).size < 3 ∧
      r.model = .singletons stamp (t.config.matrix intervals)) ∨
    (3 ≤ (t.config.matrix intervals).size ∧ ∃ labels worth f,
      (Partition.ofLabels (t.config.matrix intervals) labels worth).filter
        (t.config.matrix intervals) t.config.filterRule = .ok f ∧
      r.search = some (.ofLabels (t.config.matrix intervals) labels worth, f) ∧
      r.model = .ofFiltered stamp (t.config.matrix intervals) f) := by
  by_cases hsize : (t.config.matrix intervals).size < 3
  · obtain rfl := Except.ok.inj ((train_few stamp initial hsize).symm.trans h)
    exact .inl ⟨hsize, rfl⟩
  · have h3 := Nat.le_of_not_lt hsize
    cases hp : Partition.search t.objectiveOrDefault (t.config.matrix intervals)
        t.config.searchParams (initial.labels (t.config.matrix intervals).ids
          (usableClusters t.config.numClusters (t.config.matrix intervals).size)) with
    | error e =>
      rw [train_eq_error stamp initial h3 hp] at h
      cases h
    | ok p =>
      obtain ⟨labels, worth, rfl⟩ := Partition.search_eq_ofLabels hp
      obtain ⟨f, hf, htrain⟩ := train_eq_ok stamp initial h3 hp
      obtain rfl := Except.ok.inj (htrain.symm.trans h)
      exact .inr ⟨h3, labels, worth, f, hf, rfl, rfl⟩

/-- A training comes to a model unless the labels that its search is given do not fit. -/
theorem train_ok_or_misfit (t : Trainer) (stamp : Stamp) (intervals : List Interval)
    (initial : StartingPoint) :
    let m := t.config.matrix intervals
    let k := usableClusters t.config.numClusters m.size
    ((3 ≤ m.size → ∀ labels, initial.labels m.ids k = some labels → Fitting m.size k labels) ∧
      ∃ r, t.train stamp intervals initial = .ok r) ∨
    (3 ≤ m.size ∧ ∃ labels fault, initial.labels m.ids k = some labels ∧
      Misfit m.size k labels fault ∧
        t.train stamp intervals initial = .error (.refused (.initial fault))) := by
  intro m k
  by_cases hsize : m.size < 3
  · exact .inl ⟨fun h3 => absurd hsize (Nat.not_lt.2 h3), _, train_few stamp initial hsize⟩
  · have h3 := Nat.le_of_not_lt hsize
    obtain ⟨hclusters, hruns⟩ := t.searchParams_ne_zero
    rcases Partition.search_cases t.objectiveOrDefault m (initial.labels m.ids k) hclusters hruns
      with ⟨hfit, p, hp⟩ | ⟨-, labels, fault, hlabels, hmisfit, herror⟩
    · obtain ⟨labels, worth, rfl⟩ := Partition.search_eq_ofLabels hp
      obtain ⟨f, -, htrain⟩ := train_eq_ok stamp initial h3 hp
      exact .inl ⟨hfit, _, htrain⟩
    · exact .inr ⟨h3, labels, fault, hlabels, hmisfit, train_eq_error stamp initial h3 herror⟩

theorem usableClusters_pos (t : Trainer) (n : Nat) :
    0 < usableClusters t.config.numClusters n :=
  LogAnomaly.usableClusters_pos t.searchParams_ne_zero.1

/-- From anything but labels that are given as they are a training always comes to a model. -/
theorem exists_train_eq_ok (t : Trainer) (stamp : Stamp) (intervals : List Interval)
    (initial : StartingPoint) (hgiven : ∀ given, initial ≠ .assignment given) :
    ∃ r, t.train stamp intervals initial = .ok r := by
  rcases t.train_ok_or_misfit stamp intervals initial with
    ⟨-, hok⟩ | ⟨-, labels, fault, hlabels, hmisfit, -⟩
  · exact hok
  · exact absurd (StartingPoint.fitting_labels hgiven (t.usableClusters_pos _) hlabels)
      hmisfit.not_fitting

end Trainer

/-- A training is refused just for an assignment that does not fit: it does not have one label for
each message that appears often enough, or a label is not below the number of clusters that are
used. What is reported is the first of these faults, so no setting is refused any more, the filter
leaves no cluster without a decision and no index is out of range. From a random partition, and from
the clusters of any other model, training always comes to a model: there is a cluster to be used,
and the labels that are made of those clusters fit. -/
theorem train_refused_iff (t : Trainer) (stamp : Stamp) (intervals : List Interval)
    (initial : StartingPoint) :
    let ids := InformationMatrix.survivors t.config.minAppearances intervals
    let k := usableClusters t.config.numClusters ids.length
    ((∃ e, t.train stamp intervals initial = .error e) ↔
      3 ≤ ids.length ∧ ∃ given, initial = .assignment given ∧
        (given.length ≠ ids.length ∨ ∃ label ∈ given, k ≤ label)) ∧
    (∀ e, t.train stamp intervals initial = .error e →
      ∃ given fault, initial = .assignment given ∧ Misfit ids.length k given fault ∧
        e = .refused (.initial fault)) ∧
    0 < k ∧
    ((∀ given, initial ≠ .assignment given) →
      (∃ r, t.train stamp intervals initial = .ok r) ∧
        ∀ labels, initial.labels ids k = some labels → Fitting ids.length k labels) := by
  intro ids k
  have hk : 0 < k := t.usableClusters_pos _
  have hrefused : ∀ e, t.train stamp intervals initial = .error e →
      3 ≤ ids.length ∧ ∃ given fault, initial = .assignment given ∧
        Misfit ids.length k given fault ∧ e = .refused (.initial fault) := by
    intro e he
    rcases t.train_ok_or_misfit stamp intervals initial with
      ⟨-, r, hr⟩ | ⟨h3, labels, fault, hlabels, hmisfit, herror⟩
    · rw [hr] at he
      cases he
    · obtain rfl := Except.error.inj (herror.symm.trans he)
      cases initial with
      | assignment given =>
        obtain rfl := Option.some.inj hlabels
        exact ⟨h3, _, fault, rfl, hmisfit, rfl⟩
      | none => cases hlabels
      | previousModel previous =>
        have hgiven : ∀ given, StartingPoint.previousModel previous ≠ .assignment given := nofun
        exact absurd (StartingPoint.fitting_labels hgiven hk hlabels) hmisfit.not_fitting
  refine ⟨⟨?_, ?_⟩, fun e he => (hrefused e he).2, hk, fun hgiven =>
    ⟨t.exists_train_eq_ok stamp intervals initial hgiven, fun labels hlabels =>
      StartingPoint.fitting_labels hgiven hk hlabels⟩⟩
  · rintro ⟨e, he⟩
    obtain ⟨h3, given, fault, rfl, hmisfit, -⟩ := hrefused e he
    refine ⟨h3, given, rfl, ?_⟩
    cases hmisfit with
    | length hlen => exact .inl hlen
    | label _ hgot hle _ => exact .inr ⟨_, List.mem_of_getElem? hgot, hle⟩
  · rintro ⟨h3, given, rfl, hbad⟩
    rcases t.train_ok_or_misfit stamp intervals (.assignment given) with
      ⟨hfit, -⟩ | ⟨-, _, fault, -, -, herror⟩
    · obtain ⟨hlen, hlt⟩ := hfit h3 given rfl
      rcases hbad with hne | ⟨label, hlabel, hle⟩
      · exact absurd hlen hne
      · exact absurd (hlt label hlabel) (Nat.not_lt.2 hle)
    · exact ⟨_, herror⟩

/-! ## Three messages -/

/-- Two intervals with the same three messages. -/
def trioIntervals : List Interval :=
  let start : Instant := .ofParts (.ofParts 2024 1 1) 0 0
  [⟨1, start, [⟨1, 1, none⟩, ⟨2, 1, none⟩, ⟨3, 1, none⟩]⟩,
   ⟨2, start, [⟨1, 1, none⟩, ⟨2, 1, none⟩, ⟨3, 1, none⟩]⟩]

/-- The usual settings. -/
def usualTrainer : Trainer where
  config := {}
  valid := rfl

/-- A name of zeros. -/
def zeroStamp : Stamp where
  modelId := ⟨.replicate 32 ⟨0, Nat.zero_lt_succ 15⟩⟩
  trainedAt := .ofParts (.ofParts 2024 1 1) 0 0

theorem three_le_survivors_trio : 3 ≤ (InformationMatrix.survivors 1 trioIntervals).length := by
  have hoften : ∀ id ∈ [1, 2, 3], 1 < appearances trioIntervals id := by decide
  have hrows : [1, 2, 3] ⊆ InformationMatrix.survivors 1 trioIntervals := fun id hid =>
    mem_survivors.2 (hoften id hid)
  exact (List.subperm_of_subset (by decide) hrows).length_le

/-- Two labels are too few for three messages; the clusters of a model that knows none of them
fit. -/
theorem train_refused_iff_trio :
    (∃ e, usualTrainer.train zeroStamp trioIntervals (.assignment [0, 1]) = .error e) ∧
    ∃ r, usualTrainer.train zeroStamp trioIntervals
      (.previousModel ⟨zeroStamp, 1, .empty, .ofList [], []⟩) = .ok r := by
  obtain ⟨hiff, -⟩ := train_refused_iff usualTrainer zeroStamp trioIntervals (.assignment [0, 1])
  obtain ⟨-, -, -, hother⟩ := train_refused_iff usualTrainer zeroStamp trioIntervals
    (.previousModel ⟨zeroStamp, 1, .empty, .ofList [], []⟩)
  have h3 := three_le_survivors_trio
  have hlen : [0, 1].length ≠ (InformationMatrix.survivors 1 trioIntervals).length :=
    Nat.ne_of_lt h3
  exact ⟨hiff.2 ⟨h3, _, rfl, .inl hlen⟩, (hother nofun).1⟩

end LogAnomaly
