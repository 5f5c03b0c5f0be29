import LogAnomaly.Config.Range
import LogAnomaly.Partition.Filter
import LogAnomaly.Partition.Run
import LogAnomaly.Training.StartingPoint

/-!
# Training

* `Trainer`: settings that have been checked, and an objective;
* `Trainer.train`: a model from intervals: the matrix of the messages, a partition of its rows,
  and of that what is not filtered out.
-/

namespace LogAnomaly

namespace TrainingSettings

/-- What counts as a sample. -/
def sampling (config : TrainingSettings) : Sampling :=
  if config.timeline then .timeline config.ticksPerInterval else .presence

/-- How a partition is searched. -/
def searchParams (config : TrainingSettings) : SearchParams where
  numClusters := config.numClusters
  numRuns := config.numRuns
  seed := config.seed
  maxTrials := config.maxTrials
  maxIdleTrials := config.maxIdleTrials

/-- Which clusters are left out. -/
def filterRule (config : TrainingSettings) : FilterRule Float :=
  ⟨config.minClusterSize, config.minAvgInfoRatio⟩

/-- The matrix of the messages of intervals. -/
def matrix (config : TrainingSettings) (intervals : List Interval) : InformationMatrix Float :=
  .ofIntervals config.sampling config.minAppearances intervals

end TrainingSettings

/-- Settings that have been checked, and an objective in place of the usual one. -/
structure Trainer where
  config : TrainingSettings
  objective : Option (Objective Float) := none
  valid : config.validate = .ok ()

/-- What comes of a training. -/
structure TrainingResult where
  model : Model
  /-- The number of messages that appear often enough. -/
  rowCount : Nat
  /-- The clusters and the verdicts about them, if there were enough messages to search. -/
  search : Option (Partition Float × Filtered Float) := none

/-- Fewer messages than this are not searched. -/
def minSearchIds : Nat := 3

/-- A model in which every message is a cluster. -/
def Model.singletons (stamp : Stamp) (m : InformationMatrix Float) : Model where
  stamp
  intervals := m.intervals
  assignments := .ofList m.ids.zipIdx
  seen := m.seen
  clusters := (List.range m.size).map fun cluster => ⟨cluster, 1, ((0 : Nat) : Float), cluster⟩

/-- A model of the used clusters. -/
def Model.ofFiltered (stamp : Stamp) (m : InformationMatrix Float) (f : Filtered Float) :
    Model where
  stamp
  intervals := m.intervals
  assignments := .ofList ((m.ids.zip f.assignment).filterMap fun (id, cluster) =>
    cluster.map fun cluster => (id, cluster))
  seen := m.seen
  clusters := f.used.zipIdx.map fun (v, cluster) => ⟨cluster, v.size, v.meanInfo, v.rawIndex⟩

namespace Trainer

/-- Checks settings. -/
def ofConfig (config : TrainingSettings) (objective : Option (Objective Float)) :
    Except TrainingError Trainer :=
  match h : config.validate with
  | .error e => .error (.config e)
  | .ok () => .ok ⟨config, objective, h⟩

/-- The objective of the search. -/
def objectiveOrDefault (t : Trainer) : Objective Float :=
  t.objective.getD (.information t.config.alpha)

/-- A model from intervals. -/
def train (t : Trainer) (stamp : Stamp) (intervals : List Interval) (initial : StartingPoint) :
    Except (Halt TrainingError) TrainingResult := do
  let m := t.config.matrix intervals
  if m.size < minSearchIds then
    return { model := .singletons stamp m, rowCount := m.size }
  else
    let k := usableClusters t.config.numClusters m.size
    let p ← (Partition.search t.objectiveOrDefault m t.config.searchParams
      (initial.labels m.ids k)).mapError .refused
    let f ← p.filter m t.config.filterRule
    return { model := .ofFiltered stamp m f, rowCount := m.size, search := some (p, f) }

end Trainer

end LogAnomaly
