import LogAnomaly.Json.Decode
import LogAnomaly.Json.Printer
import LogAnomaly.Json.Reader
import LogAnomaly.Time.Reader
import LogAnomaly.Training.Model

/-!
# Models as documents

* `Model.toJson`, `Model.ofJson?`: a record in which the clusters of messages are an object, the
  names of whose fields are the messages in base ten;
* `Model.write`, `Model.read?`: its text.
-/

namespace LogAnomaly

open LogAnomaly.Json

/-- The number in base ten. -/
def idKey (id : Nat) : String := String.ofList (Nat.toDigits 10 id)

/-- The number that a name of digits stands for: without needless zeros and signs, and not
written with escapes. -/
def Json.Key.nat? : Json.Key → Option Nat
  | .plain name => do
    let digits := name.toList
    if digits.isEmpty || !digits.all Text.isAsciiDigit then none
    let value := Text.digitsValue digits
    if value ≤ maxWord ∧ Nat.toDigits 10 value = digits then some value else none
  | _ => none

/-- An object with numbers as names. -/
def IdMap.toJson (m : IdMap Nat) : Json :=
  .record (m.toList.map fun (id, value) => (idKey id, .ofNat value))

/-- A map from an object; the last field of a name counts. -/
def IdMap.ofJson? : Json → Option (IdMap Nat)
  | .object fields =>
    (fields.mapM fun (field : Key × Json) => do
      return (← field.1.nat?, ← field.2.nat?)).map .ofList
  | _ => none

/-- What is known of a cluster, as a document. -/
def TrainedCluster.toJson (c : TrainedCluster) : Json :=
  .record
    [("cluster_id", .ofNat c.clusterId), ("size", .ofNat c.size), ("mean_info", ofFloat c.meanInfo),
     ("raw_index", .ofNat c.rawIndex)]

/-- What is known of a cluster, from a document. -/
def TrainedCluster.ofJson? (j : Json) : Option TrainedCluster := do
  match ← j.record? [("cluster_id", .refused), ("size", .refused), ("mean_info", .refused),
      ("raw_index", .refused)] with
  | [some id, some size, some mean, some raw] =>
    return {
      clusterId := ← id.nat?
      size := ← size.nat?
      meanInfo := ← mean.float?
      rawIndex := ← raw.nat? }
  | _ => none

namespace Model

/-- A model as a document. -/
def toJson (m : Model) : Json :=
  .record
    [("model_id", .string m.stamp.modelId.write), ("trained_at", .string m.stamp.trainedAt.write),
     ("intervals", .ofNat m.intervals), ("assignments", m.assignments.toJson),
     ("seen", .ofList .ofNat m.seen.toList), ("clusters", .ofList TrainedCluster.toJson m.clusters)]

/-- A model from a document. -/
def ofJson? (j : Json) : Option Model := do
  match ← j.record? [("model_id", .refused), ("trained_at", .refused), ("intervals", .refused),
      ("assignments", .refused), ("seen", .refused), ("clusters", .refused)] with
  | [some id, some time, some intervals, some assignments, some seen, some clusters] =>
    return {
      stamp := ⟨← Uuid.parse? (← id.text?), ← Instant.parse? (← time.text?)⟩
      intervals := ← intervals.nat?
      assignments := ← IdMap.ofJson? assignments
      seen := .ofList (← seen.list? nat?)
      clusters := ← clusters.list? TrainedCluster.ofJson? }
  | _ => none

/-- The text of a model. -/
def write (m : Model) : String := m.toJson.pretty

/-- The model of a text. -/
def read? (text : String) : Option Model := do ofJson? (← Json.parse? text)

end Model

end LogAnomaly
