import LogAnomaly.Partition.Basic
import LogAnomaly.Training.Error

/-!
# Filtered partitions

Clusters that tell little are left out: small ones, those with little information inside, and
always the one with the lowest score.

* `Decision`, `Verdict`: what is decided about a cluster;
* `Filtered`: the verdicts, and the clusters of the rows that are left;
* `Partition.filter`: the decisions, in three passes: each cluster on its own (`judge?`), then the
  one with the lowest score (`markLowest`), then the numbers of the used ones (`numberUsed`).
-/

namespace LogAnomaly

/-- What is decided about a cluster. -/
inductive Decision where
  | used
  /-- It has too few members. -/
  | tooSmall
  /-- Its members tell too little about each other. -/
  | tooNoisy
  /-- It has the lowest score of all. -/
  | lowestScore
  /-- Nothing is decided yet; no cluster is left so. -/
  | undecided
  deriving DecidableEq, Repr

/-- The decision about a cluster of a partition. -/
structure Verdict (α : Type) where
  /-- The number of the cluster in the partition. -/
  rawIndex : Nat
  size : Nat
  meanInfo : α
  decision : Decision
  /-- The number of a used cluster among the used ones. -/
  usedIndex : Option Nat := none

/-- The decisions about a partition. -/
structure Filtered (α : Type) where
  /-- In the order of the clusters. -/
  verdicts : List (Verdict α)
  /-- The used cluster of each row. -/
  assignment : List (Option Nat)

namespace Filtered

variable {α : Type}

/-- The verdicts with a decision. -/
def decidedAs (decision : Decision) (f : Filtered α) : List (Verdict α) :=
  f.verdicts.filter fun v => v.decision = decision

/-- The verdicts of the used clusters. -/
def used (f : Filtered α) : List (Verdict α) := f.decidedAs .used

/-- The number of clusters with a decision. -/
def count (decision : Decision) (f : Filtered α) : Nat := (f.decidedAs decision).length

end Filtered

/-- Which clusters are left out. -/
structure FilterRule (α : Type) where
  /-- Clusters with fewer members are too small. -/
  minClusterSize : Nat := 2
  /-- Clusters whose mean is below this multiple of the mean of the matrix are too noisy. -/
  minAvgInfoRatio : Option α := none

variable {α : Type} [LT α] [DecidableLT α]

/-- The place of the first least score. -/
def lowestFrom (best : α) (place next : Nat) : List α → Nat
  | [] => place
  | score :: scores =>
    if score < best then lowestFrom score next (next + 1) scores
    else lowestFrom best place (next + 1) scores

/-- The place of the first least score, if there is any. -/
def lowest? : List α → Option Nat
  | [] => none
  | score :: scores => some (lowestFrom score 0 1 scores)

/-- Numbers the used clusters from `next` on. By now all clusters must have been decided about. -/
def numberUsed : Nat → List (Verdict α) → Except TrainingError (List (Verdict α))
  | _, [] => .ok []
  | next, v :: verdicts =>
    match v.decision with
    | .used => (numberUsed (next + 1) verdicts).map ({ v with usedIndex := some next } :: ·)
    | .undecided => .error (.undecided v.rawIndex)
    | _ => (numberUsed next verdicts).map ({ v with usedIndex := none } :: ·)

/-- Marks the cluster with the lowest score, whatever was decided about it. -/
def markLowest (lowest : Option Nat) (verdicts : List (Verdict α)) : List (Verdict α) :=
  match lowest with
  | none => verdicts
  | some place => verdicts.modify place fun v => { v with decision := .lowestScore }

variable [Add α] [Mul α] [Div α] [NatCast α]

/-- The verdict about a cluster before anything is decided. -/
def Verdict.undecided (index size : Nat) : Verdict α :=
  ⟨index, size, ((0 : Nat) : α), .undecided, none⟩

/-- The verdicts about all clusters before anything is decided. -/
def Partition.fresh (p : Partition α) : List (Verdict α) :=
  p.parts.zipIdx.map fun (part, index) => .undecided index part.size

/-- Decides about a cluster on its own; none if it has a member without a cell in the matrix. -/
def judge? (m : InformationMatrix α) (rule : FilterRule α) (p : Partition α) (v : Verdict α) :
    Option (Verdict α) :=
  if v.size < rule.minClusterSize then some { v with decision := .tooSmall }
  else
    (m.pairMean? (p.members v.rawIndex)).map fun mean =>
      let noisy := match rule.minAvgInfoRatio with
        | none => false
        | some ratio => mean < ratio * m.overallMean
      { v with meanInfo := mean, decision := if noisy then .tooNoisy else .used }

/-- Decides about all clusters. A member without a cell in the matrix stops it. -/
def Partition.filter (m : InformationMatrix α) (rule : FilterRule α) (p : Partition α) :
    Except (Halt TrainingError) (Filtered α) :=
  match p.fresh.mapM (judge? m rule p) with
  | none => .error .outOfRange
  | some judged => do
    let marked := markLowest (lowest? (p.parts.map (·.score))) judged
    let verdicts ← (numberUsed 0 marked).mapError .refused
    return {
      verdicts
      assignment := p.assignment.map fun cluster => (verdicts[cluster]?).bind (·.usedIndex) }

end LogAnomaly
