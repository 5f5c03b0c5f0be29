import LogAnomaly.Config.Error

/-!
# Failures of training

* `TrainingError`: why a training or a search is refused;
* `Halt`: it is refused, or stopped at an index that is out of range.
-/

namespace LogAnomaly

/-- Why a starting partition is refused. -/
inductive InitialFault where
  /-- It has a label for another number of elements. -/
  | length (expected got : Nat)
  /-- It has a label that is not below the number of clusters. -/
  | label (entry got clusters : Nat)
  deriving DecidableEq, Repr

/-- The wording of a refused starting partition. -/
def InitialFault.message : InitialFault → String
  | .length expected got =>
    "expected " ++ toString expected ++ " entries, got " ++ toString got
  | .label entry got clusters =>
    "entry " ++ toString entry ++ " assigns cluster " ++ toString got ++ " but only " ++
      toString clusters ++ " clusters are used"

/-- Why a training or a search is refused. -/
inductive TrainingError where
  | config (source : ConfigError)
  | initial (fault : InitialFault)
  /-- A filter left a cluster without a decision. -/
  | undecided (cluster : Nat)
  /-- A file cannot be read or written. -/
  | io
  /-- A document cannot be read. -/
  | json

/-- The wording of a failure. What the system says about files and documents is left open. -/
def TrainingError.message : TrainingError → String
  | .config source => "configuration error: " ++ source.message
  | .initial fault => "invalid initial partition: " ++ fault.message
  | .undecided cluster =>
    "internal invariant violated: cluster " ++ toString cluster ++ " has no status after filtering"
  | .io => "I/O error: <io>"
  | .json => "JSON error: <json>"

/-- How a computation ends without a result. -/
inductive Halt (ε : Type) where
  /-- It reports why. -/
  | refused (reason : ε)
  /-- It stops at an index that is out of range. -/
  | outOfRange

end LogAnomaly
