import LogAnomaly.Cluster.Error
import LogAnomaly.Training.Error

/-!
# Failures of commands

* `Failure`: why a command fails, from what was being done to the first cause;
* the failures of the parts of the program as causes.

What the system says about files, documents and indices is left open.
-/

namespace LogAnomaly

/-- Why a command fails: what was being done comes first, each cause after what it stopped. -/
structure Failure where
  chain : List String
  deriving DecidableEq, Repr

namespace Failure

/-- A failure of what was being done. -/
def within (doing : String) (f : Failure) : Failure := ⟨doing :: f.chain⟩

/-- A file cannot be read, written or locked. -/
def io : Failure := ⟨["<io>"]⟩

/-- A document cannot be read. -/
def json : Failure := ⟨["<json>"]⟩

/-- An index is out of range. -/
def panic : Failure := ⟨["<panic>"]⟩

end Failure

/-- A refused configuration as a cause. -/
def ConfigError.failure (e : ConfigError) : Failure := ⟨[e.message]⟩

/-- A failure of a store as a cause. -/
def StoreFault.failure : StoreFault → Failure
  | .io => Failure.io.within StoreFault.io.message
  | .json => Failure.json.within StoreFault.json.message
  | e => ⟨[e.message]⟩

/-- A failure of clustering as a cause. -/
def AssignmentError.failure (e : AssignmentError) : Failure :=
  match e with
  | .store _ _ source => source.failure.within e.message
  | .knownId _ _ | .strayPlace _ _ => ⟨[e.message]⟩

/-- A failure of training as a cause. -/
def TrainingError.failure (e : TrainingError) : Failure :=
  match e with
  | .config source => source.failure.within e.message
  | .io => Failure.io.within e.message
  | .json => Failure.json.within e.message
  | _ => ⟨[e.message]⟩

/-- A training without a result as a cause. -/
def Halt.failure : Halt TrainingError → Failure
  | .refused e => e.failure
  | .outOfRange => .panic

end LogAnomaly
