import LogAnomaly.Arithmetic

/-!
# Objectives

* `Objective`: what a search for a partition makes as great as possible, a sum over the clusters;
* `Objective.information`: the mean information inside the clusters, with a weight for the
  evenness of their sizes.
-/

namespace LogAnomaly

/-- What a partition is worth, as a sum over its clusters. -/
structure Objective (α : Type) where
  /-- What a cluster gives: of a number of elements whose pairs sum to `links`, out of `n` in
  all. -/
  worth (size : Nat) (links : α) (n : Nat) : α

variable {α : Type} [Add α] [Mul α] [Div α] [NatCast α] [Logarithm α]

/-- The mean of the pairs inside the clusters and `alpha` times the logarithm of their shares,
each weighted by the share of the cluster. The second sum is `-alpha` times the entropy. -/
def Objective.information (alpha : α) : Objective α where
  worth size links n :=
    let zero : α := ((0 : Nat) : α)
    if size = 0 ∨ n = 0 then zero
    else
      let share : α := ((size : Nat) : α) / ((n : Nat) : α)
      let mean := if size < 2 then zero else links / ((size * (size - 1) / 2 : Nat) : α)
      share * mean + alpha * share * Logarithm.log share

end LogAnomaly
