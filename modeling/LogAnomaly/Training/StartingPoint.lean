import LogAnomaly.Config.Basic
import LogAnomaly.Training.Document
import LogAnomaly.Training.Error

/-!
# Starting partitions

* `StartingPoint`: where the search starts from;
* `StartingPoint.ofConfig`: the one that a configuration names;
* `StartingPoint.labels`: the labels to start from.
-/

namespace LogAnomaly

/-- Where a search starts from. -/
inductive StartingPoint where
  /-- From a random partition. -/
  | none
  /-- From a cluster for every row of the matrix. -/
  | assignment (labels : List Nat)
  /-- From the clusters of a model. -/
  | previousModel (model : Model)

namespace StartingPoint

/-- The text of a file, if it can be read, as a document. -/
def readFile {α : Type} (read : String → Option String) (decode : String → Option α)
    (path : String) : Except TrainingError α :=
  match read path with
  | .none => .error .io
  | some text =>
    match decode text with
    | .none => .error .json
    | some value => .ok value

/-- Labels from the text of a document. -/
def readLabels? (text : String) : Option (List Nat) := do
  (← Json.parse? text).list? Json.nat?

/-- The starting partition that a configuration names; `read` gives the texts of files. -/
def ofConfig (read : String → Option String) (config : TrainingSettings) :
    Except TrainingError StartingPoint :=
  match config.initialAssignment, config.initialModel with
  | some _, some _ => .error (.config .conflictingSources)
  | some path, .none => (readFile read readLabels? path).map .assignment
  | .none, some path => (readFile read Model.read? path).map .previousModel
  | .none, .none => .ok .none

/-- The label of each message in the clusters of a model, `k` of which are used. Messages that it
does not have take the labels in turn, `fresh` of which are taken. -/
def labelsFrom (previous : Model) (k : Nat) : Nat → List Nat → List Nat
  | _, [] => []
  | fresh, id :: ids =>
    match previous.cluster? id with
    | some cluster => cluster % k :: labelsFrom previous k fresh ids
    | .none => fresh % k :: labelsFrom previous k (fresh + 1) ids

/-- The labels to start from. -/
def labels (ids : List Nat) (k : Nat) : StartingPoint → Option (List Nat)
  | .none => .none
  | .assignment labels => some labels
  | .previousModel previous => some (labelsFrom previous k 0 ids)

end StartingPoint

end LogAnomaly
