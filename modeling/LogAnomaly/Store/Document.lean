import LogAnomaly.Cluster.Basic
import LogAnomaly.Json.Decode
import LogAnomaly.Json.Printer
import LogAnomaly.Json.Reader
import LogAnomaly.Time.Reader

/-!
# The document of a store

* `TextCluster.toJson`, `TextCluster.ofJson?`: a cluster as a record;
* `ClusterDocument.write`, `ClusterDocument.read?`: all clusters of a store as a text.
-/

namespace LogAnomaly

open LogAnomaly.Json

/-- A cluster as a document. -/
def TextCluster.toJson (c : TextCluster) : Json :=
  .record
    [("id", .ofNat c.id), ("component", .string c.component),
     ("representative", .string c.representative),
     ("last_observed", .string c.lastObserved.write)]

/-- A cluster from a document. -/
def TextCluster.ofJson? (j : Json) : Option TextCluster := do
  match ← j.record? [("id", .refused), ("component", .refused), ("representative", .refused),
      ("last_observed", .refused)] with
  | [some id, some component, some representative, some day] =>
    return {
      id := ← id.nat?
      component := ← component.text?
      representative := ← representative.text?
      lastObserved := ← Day.parse? (← day.text?) }
  | _ => none

namespace ClusterDocument

/-- The text of a list of clusters. -/
def write (clusters : List TextCluster) : String :=
  (Json.record [("clusters", .ofList TextCluster.toJson clusters)]).pretty

/-- The clusters of a text. -/
def read? (text : String) : Option (List TextCluster) := do
  match ← (← Json.parse? text).record? [("clusters", .refused)] with
  | [some clusters] => clusters.list? TextCluster.ofJson?
  | _ => none

end ClusterDocument

end LogAnomaly
