import LogAnomaly.Information.Matrix
import LogAnomaly.Partition.Objective

/-!
# Partitions

* `Partition`: a cluster for every row of a matrix, with what is known of the clusters;
* `rowsWith`, `Partition.members`: the rows of a label, and those of a cluster.
-/

namespace LogAnomaly

/-- A cluster of a partition: its size and the mean information inside it. -/
structure Part (α : Type) where
  size : Nat
  score : α

/-- A cluster for every row of a matrix. -/
structure Partition (α : Type) where
  /-- The cluster of each row. -/
  assignment : List Nat
  parts : List (Part α)
  /-- What the partition is worth. -/
  objective : α

/-- The rows with a label, in ascending order. -/
def rowsWith {n : Nat} (labels : Fin n → Nat) (label : Nat) : List (Fin n) :=
  (List.finRange n).filter fun i => labels i = label

/-- The rows of a cluster, in ascending order. -/
def Partition.members {α : Type} (p : Partition α) (cluster : Nat) : List Nat :=
  (p.assignment.zipIdx.filter (·.1 == cluster)).map (·.2)

end LogAnomaly
