import LogAnomaly.Ascending
import LogAnomaly.Time.Instant
import LogAnomaly.Uuid

/-!
# Models

* `Model`: what training leaves: the clusters of messages, and all messages that it has seen.
-/

namespace LogAnomaly

/-- What is known of a cluster of messages. -/
structure TrainedCluster where
  clusterId : Nat
  size : Nat
  /-- The mean information between two members. -/
  meanInfo : Float
  /-- The number of the cluster before others were left out. -/
  rawIndex : Nat
  deriving BEq

/-- The name and the time of a model. -/
structure Stamp where
  modelId : Uuid
  trainedAt : Instant
  deriving DecidableEq

/-- What training leaves. -/
structure Model where
  stamp : Stamp
  /-- The number of intervals it was trained on, at least 1. -/
  intervals : Nat
  /-- The cluster of each message that has one. -/
  assignments : IdMap Nat
  /-- All messages of the training. -/
  seen : IdSet
  clusters : List TrainedCluster

namespace Model

/-- The cluster of a message. -/
def cluster? (id : Nat) (m : Model) : Option Nat := m.assignments.get? id

/-- Whether a message occurred in training. -/
def knows (id : Nat) (m : Model) : Bool := m.seen.contains id

/-- The number of members of a cluster, 0 if there is no such cluster. -/
def memberCount (cluster : Nat) (m : Model) : Nat := ((m.clusters[cluster]?).map (·.size)).getD 0

/-- The messages of a cluster, in ascending order. -/
def members (cluster : Nat) (m : Model) : List Nat :=
  (m.assignments.toList.filter (·.2 == cluster)).map (·.1)

instance : BEq Model where
  beq a b := a.stamp == b.stamp && a.intervals == b.intervals && a.assignments == b.assignments &&
    a.seen == b.seen && a.clusters == b.clusters

end Model

end LogAnomaly
