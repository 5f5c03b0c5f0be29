import LogAnomaly.Partition.Search

/-!
# From labels to partitions

* `evaluate`: what labels are worth, from tables that are filled in one pass over the rows;
* `renumber`: the numbers of the labels in use, without gaps;
* `Partition.compact`: the partition of labels with these numbers.
-/

namespace LogAnomaly

variable {α : Type} [Add α] {k : Nat}

/-- Adds the pairs of a row with later rows of its cluster to the sum of the cluster. -/
def addPairs (m : InformationMatrix α) (labels : Vector (Fin k) m.size) (i : Fin m.size)
    (later : List (Fin m.size)) (intra : Vector α k) : Vector α k :=
  later.foldl (fun intra j =>
    if labels[j] = labels[i] then SearchState.addAt intra labels[i] (m.cell i j) else intra) intra

/-- Adds rows to the sizes of the clusters, and the pairs of these rows to the sums over pairs. -/
def addRows (m : InformationMatrix α) (labels : Vector (Fin k) m.size) :
    List (Fin m.size) → Vector Nat k × Vector α k → Vector Nat k × Vector α k
  | [], tables => tables
  | i :: later, (sizes, intra) =>
    addRows m labels later (SearchState.addAt sizes labels[i] 1, addPairs m labels i later intra)

variable [NatCast α]

/-- What labels are worth under an objective. -/
def evaluate (objective : Objective α) (m : InformationMatrix α)
    (labels : Vector (Fin k) m.size) : α :=
  let (sizes, intra) := addRows m labels (List.finRange m.size)
    (Vector.replicate k 0, Vector.replicate k ((0 : Nat) : α))
  total ((sizes.toList.zip intra.toList).map fun (size, links) =>
    objective.worth size links m.size)

/-- The numbers of the labels below a bound, and how many of them are in use. Those in use are
numbered in ascending order. -/
def renumber (labels : List Nat) : Nat → Array (Option Nat) × Nat
  | 0 => (#[], 0)
  | label + 1 =>
    let (table, next) := renumber labels label
    if label ∈ labels then (table.push (some next), next + 1) else (table.push none, next)

/-- A bound of all labels. -/
def labelBound (labels : List Nat) : Nat :=
  match labels.max? with
  | none => 0
  | some greatest => greatest + 1

/-- The clusters of labels in the order of the labels; labels without rows are left out. -/
def Partition.compact [Div α] (m : InformationMatrix α) (labels : Fin m.size → Nat) (objective : α) :
    Partition α :=
  let raw := List.ofFn labels
  let (table, next) := renumber raw (labelBound raw)
  let number (i : Fin m.size) : Nat := table[labels i]?.join.getD 0
  { assignment := List.ofFn number
    parts := (List.range next).map fun cluster =>
      let members := rowsWith number cluster
      ⟨members.length, m.pairMean members⟩
    objective }

end LogAnomaly
