import LogAnomaly.Proofs.Information.Rearranged
import LogAnomaly.Proofs.Training.Answers

/-!
# Training on rearranged intervals

* `Trainer.train_stamped`: the name and the time of a model are all that a stamp changes;
* `Trainer.matrix_congr`: which intervals have the same matrix;
* `train_rearranged`: so their order, their ids and starts, and the order and the counts of their
  activities do not matter to training.
-/

namespace LogAnomaly

/-- What comes of a training, under another name and time. -/
def TrainingResult.stamped (stamp : Stamp) (r : TrainingResult) : TrainingResult :=
  { r with model := { r.model with stamp } }

namespace Trainer

/-- Whether a training succeeds, and with which clusters, does not depend on its stamp. -/
theorem train_stamped (t : Trainer) (stamp stamp' : Stamp) (intervals : List Interval)
    (initial : StartingPoint) :
    t.train stamp' intervals initial =
      (t.train stamp intervals initial).map (·.stamped stamp') := by
  unfold train
  dsimp only
  split
  · rfl
  · cases Partition.search t.objectiveOrDefault (t.config.matrix intervals) t.config.searchParams
      (initial.labels (t.config.matrix intervals).ids
        (usableClusters t.config.numClusters (t.config.matrix intervals).size)) with
    | error e => rfl
    | ok p =>
      simp only [Except.mapError, bind, Except.bind]
      cases p.filter (t.config.matrix intervals) t.config.filterRule <;> rfl

/-- Intervals with the same traces have the same matrix. If a sample is a whole interval, then the
messages of each interval are enough. -/
theorem matrix_congr (t : Trainer) {s s' : List Interval}
    (h : traces s' = traces s ∨ t.config.timeline = false ∧ messageSets s' = messageSets s) :
    t.config.matrix s' = t.config.matrix s := by
  rcases h with htraces | ⟨hpresence, hsets⟩
  · exact (shows_trace t.config.sampling).ofIntervals_congr (Multiset.coe_eq_coe.1 htraces) _
  · have hsampling : t.config.sampling = .presence := if_neg (by rw [hpresence]; exact nofun)
    have hview : Shows t.config.sampling Interval.messageSet := hsampling ▸ shows_messageSet
    exact hview.ofIntervals_congr (Multiset.coe_eq_coe.1 hsets) _

end Trainer

/-- Training depends only on what occurred together. Intervals that differ in their order, in their
ids and starts, or in the order and the counts of their activities have the same matrix, so that
training on them is refused for the same reason, or comes to the same partition and, but for its
stamp, the same model. If a sample is a whole interval, then ticks and repeated activities do not
matter either. -/
theorem train_rearranged (t : Trainer) {s s' : List Interval}
    (h : traces s' = traces s ∨ t.config.timeline = false ∧ messageSets s' = messageSets s)
    (initial : StartingPoint) (stamp stamp' : Stamp) :
    t.config.matrix s' = t.config.matrix s ∧
    t.train stamp' s' initial = (t.train stamp s initial).map (·.stamped stamp') := by
  have hmatrix := t.matrix_congr h
  refine ⟨hmatrix, ?_⟩
  rw [← t.train_stamped stamp stamp', Trainer.train, Trainer.train, hmatrix]

/-! ## Two rearrangements -/

/-- The mixed intervals in the other order, under one id, with their activities turned round and
counted otherwise. -/
def turnedIntervals : List Interval :=
  [⟨5, zeroStamp.trainedAt, [⟨7, 4, some [1, 5]⟩, ⟨8, 2, some [3]⟩]⟩,
   ⟨5, zeroStamp.trainedAt, [⟨7, 9, some [0]⟩, ⟨8, 0, some [1, 2]⟩, ⟨7, 3, some [2, 0, 2, 9]⟩]⟩]

/-- Three messages in two intervals, some repeated and some with ticks. -/
def repeatedIntervals : List Interval :=
  [⟨1, zeroStamp.trainedAt, [⟨3, 1, none⟩, ⟨1, 1, some [8]⟩, ⟨3, 1, some []⟩, ⟨2, 1, none⟩]⟩,
   ⟨1, zeroStamp.trainedAt, [⟨2, 1, none⟩, ⟨1, 1, none⟩, ⟨3, 7, none⟩, ⟨1, 2, none⟩]⟩]

/-- Three ticks make an interval. -/
def tickTrainer : Trainer where
  config := { timeline := true, ticksPerInterval := 3 }
  valid := rfl

theorem train_rearranged_turned :
    traces turnedIntervals = traces InformationMatrix.mixedIntervals ∧
    tickTrainer.train zeroStamp turnedIntervals .none =
      (tickTrainer.train zeroStamp InformationMatrix.mixedIntervals .none).map
        (·.stamped zeroStamp) ∧
    messageSets repeatedIntervals = messageSets trioIntervals ∧
    usualTrainer.train zeroStamp repeatedIntervals .none =
      (usualTrainer.train zeroStamp trioIntervals .none).map (·.stamped zeroStamp) := by
  have hturned : traces turnedIntervals = traces InformationMatrix.mixedIntervals := by decide
  have hrepeated : messageSets repeatedIntervals = messageSets trioIntervals := by decide
  exact ⟨hturned, (train_rearranged tickTrainer (.inl hturned) .none zeroStamp zeroStamp).2,
    hrepeated, (train_rearranged usualTrainer (.inr ⟨rfl, hrepeated⟩) .none zeroStamp zeroStamp).2⟩

end LogAnomaly
