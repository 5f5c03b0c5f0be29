import LogAnomaly.Arithmetic
import LogAnomaly.Config.Basic
import LogAnomaly.Interval.Basic
import LogAnomaly.Training.Model

/-!
# Labels of messages

A cluster *spikes* in an interval if more than one of its messages is present, and the present
share of them reaches a fraction. A message is

* new, if it did not occur in training;
* unclustered, if it did, but has no cluster;
* in context, if its cluster spikes;
* out of context, if it does not.

`spikingClusters` tells which clusters spike; `AnomalyWeights` says how anomalous each label is.
-/

namespace LogAnomaly

/-- What is said of a message in an interval. -/
inductive ContextLabel where
  | new
  | unclustered
  | inContext
  | outOfContext
  deriving DecidableEq, Repr

/-- The name of a label. -/
def ContextLabel.name : ContextLabel → String
  | .new => "NEW"
  | .unclustered => "UNCLUSTERED"
  | .inContext => "IN_CONTEXT"
  | .outOfContext => "OUT_OF_CONTEXT"

/-- How anomalous each label is. -/
structure AnomalyWeights (α : Type) where
  new : α
  unclustered : α
  outOfContext : α
  inContext : α

namespace AnomalyWeights

/-- The weight of a label. -/
def weight {α : Type} (w : AnomalyWeights α) : ContextLabel → α
  | .new => w.new
  | .unclustered => w.unclustered
  | .outOfContext => w.outOfContext
  | .inContext => w.inContext

/-- The weights of a configuration. -/
def ofConfig (c : ScoringSettings) : AnomalyWeights Float where
  new := c.newWeight
  unclustered := c.unclusteredWeight
  outOfContext := c.outOfContextWeight
  inContext := c.inContextWeight

end AnomalyWeights

/-- What is said of a message in an interval, and what it adds to the anomaly of it. -/
structure MessageScore (α : Type) where
  messageId : Nat
  intervalId : Nat
  label : ContextLabel
  /-- The cluster of a message that is in or out of context. -/
  clusterId : Option Nat
  /-- The message stands for its spiking cluster in the interval. -/
  representative : Bool
  anomaly : α

/-- The clusters of the messages of an interval, one for each message that has one. -/
def presentClusters (model : Model) (interval : Interval) : List Nat :=
  (ascending interval.messages).filterMap fun id => model.cluster? id

section

variable {α : Type} [Div α] [NatCast α] [LE α] [DecidableLE α]

/-- Whether a cluster of `size` messages spikes with `count` of them present. -/
def spikes (fraction : α) (count size : Nat) : Bool :=
  1 < count && 0 < size && fraction ≤ ((count : Nat) : α) / ((size : Nat) : α)

/-- For each cluster whether it spikes in an interval. -/
def spikingClusters (model : Model) (fraction : α) (interval : Interval) : List Bool :=
  let present := presentClusters model interval
  model.clusters.zipIdx.map fun (info, cluster) =>
    spikes fraction (present.count cluster) info.size

end

/-- The label of a message and its cluster, given for each cluster whether it spikes. -/
def labelOf (model : Model) (spiking : List Bool) (messageId : Nat) :
    ContextLabel × Option Nat :=
  if model.knows messageId then
    match model.cluster? messageId with
    | none => (.unclustered, none)
    | some cluster =>
      (if spiking[cluster]?.getD false then .inContext else .outOfContext, some cluster)
  else (.new, none)

end LogAnomaly
