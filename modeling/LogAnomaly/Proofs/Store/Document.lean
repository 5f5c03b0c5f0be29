import LogAnomaly.Proofs.Json.Records
import LogAnomaly.Proofs.Time.Parts
import LogAnomaly.Proofs.Time.Written
import LogAnomaly.Store.File
import Mathlib.Data.List.Basic

/-!
# Stores that read back

* `ClusterDocument.read?_write`: the document of clusters is read as it was written;
* `ClusterDocument.read?_write_eq_some`, `ClusterDocument.write_injective`: whatever the ids, it is
  read as nothing else, and no other clusters have it;
* `FileStore.readClusters_replaceClusters`: the document of a directory reads back once it is
  replaced.

For it to be read at all, ids are words of 64 bits; nothing else is asked of clusters.
-/

namespace LogAnomaly

open LogAnomaly.Json

theorem TextCluster.canonical_toJson (c : TextCluster) : c.toJson.Canonical := by
  refine .record ?_ ?_
  all_goals
    simp only [List.forall_mem_cons, List.not_mem_nil, false_implies, implies_true, and_true]
  · decide
  · exact ⟨.ofNat c.id, .string _, .string _, .string _⟩

/-- Of a cluster that was written all is read but perhaps its id. -/
theorem TextCluster.ofJson?_toJson_eq (c : TextCluster) :
    TextCluster.ofJson? c.toJson = (Json.ofNat c.id).nat?.map fun id => { c with id } := by
  have hfields : c.toJson.record? [("id", .refused), ("component", .refused),
      ("representative", .refused), ("last_observed", .refused)] =
      some [some (.ofNat c.id), some (.string c.component), some (.string c.representative),
        some (.string c.lastObserved.write)] := record?_record _ (by simp)
  rw [TextCluster.ofJson?, hfields]
  simp only [Option.bind_eq_bind, Option.bind_some, text?, Day.parse?_write]
  cases (Json.ofNat c.id).nat? <;> rfl

/-- A cluster is read as it was written. -/
theorem TextCluster.ofJson?_toJson {c : TextCluster} (h : c.id ≤ maxWord) :
    TextCluster.ofJson? c.toJson = some c := by
  rw [ofJson?_toJson_eq, nat?_ofNat h]
  rfl

theorem TextCluster.ofJson?_toJson_eq_some (c d : TextCluster)
    (h : TextCluster.ofJson? c.toJson = some d) : d = c := by
  rw [ofJson?_toJson_eq, Option.map_eq_some_iff] at h
  obtain ⟨id, hid, rfl⟩ := h
  rw [nat?_ofNat_eq_some hid]

theorem TextCluster.toJson_injective : Function.Injective TextCluster.toJson := by
  intro c d h
  simp only [toJson, Json.record, Json.object.injEq, List.map_cons, List.map_nil, List.cons.injEq,
    Prod.mk.injEq, Json.string.injEq, true_and, and_true] at h
  obtain ⟨hid, hcomponent, hrepresentative, hday⟩ := h
  have hdays := congrArg Day.parse? hday
  rw [Day.parse?_write, Day.parse?_write, Option.some_inj] at hdays
  cases c
  cases d
  simp only [TextCluster.mk.injEq]
  exact ⟨ofNat_injective hid, hcomponent, hrepresentative, hdays⟩

namespace ClusterDocument

/-- A written document has its clusters as its only field. -/
theorem parse?_write (clusters : List TextCluster) :
    Json.parse? (write clusters) =
      some (.record [("clusters", .ofList TextCluster.toJson clusters)]) := by
  refine parse?_pretty (.record ?_ ?_)
  all_goals
    simp only [List.forall_mem_cons, List.not_mem_nil, false_implies, implies_true, and_true]
  · decide
  · exact .ofList fun c _ => c.canonical_toJson

theorem read?_write_eq (clusters : List TextCluster) :
    read? (write clusters) =
      (Json.ofList TextCluster.toJson clusters).list? TextCluster.ofJson? := by
  have hfields : (record [("clusters", .ofList TextCluster.toJson clusters)]).record?
      [("clusters", .refused)] = some [some (.ofList TextCluster.toJson clusters)] :=
    record?_record _ (by simp)
  rw [read?, parse?_write]
  simp only [Option.bind_eq_bind, Option.bind_some, hfields]

/-- The document of clusters is read as it was written. -/
theorem read?_write {clusters : List TextCluster} (h : ∀ c ∈ clusters, c.id ≤ maxWord) :
    read? (write clusters) = some clusters := by
  rw [read?_write_eq]
  exact list?_ofList fun c hc => TextCluster.ofJson?_toJson (h c hc)

theorem read?_write_eq_some {clusters found : List TextCluster}
    (h : read? (write clusters) = some found) : found = clusters := by
  rw [read?_write_eq] at h
  exact list?_ofList_eq_some TextCluster.ofJson?_toJson_eq_some h

theorem write_injective : Function.Injective write := by
  intro clusters others h
  have hparsed := congrArg Json.parse? h
  rw [parse?_write, parse?_write] at hparsed
  simp only [Option.some_inj, Json.record, Json.ofList, Json.object.injEq, List.map_cons,
    List.map_nil, List.cons.injEq, Prod.mk.injEq, Json.array.injEq, true_and, and_true] at hparsed
  exact TextCluster.toJson_injective.list_map hparsed

end ClusterDocument

/-- Clusters are read as they were written, in their order: from the text of their document, and
from the directory in which the document was replaced by it. -/
theorem FileStore.readClusters_replaceClusters {clusters : List TextCluster}
    (h : ∀ c ∈ clusters, c.id ≤ maxWord) :
    ClusterDocument.read? (ClusterDocument.write clusters) = some clusters ∧
      ∀ s : FileStore, (s.replaceClusters clusters).1 = .ok () →
        (s.replaceClusters clusters).2.readClusters = .ok clusters := by
  have hread := ClusterDocument.read?_write h
  refine ⟨hread, fun s hok => ?_⟩
  rw [replaceClusters] at hok ⊢
  split at hok
  · cases hok
  · rename_i hblocked
    rw [if_neg hblocked]
    simp only [readClusters, hread]

/-- The greatest id and the least, quotes, backslashes, control characters, a character beyond the
basic plane, and the ends of the calendar. -/
def awkwardClusters : List TextCluster :=
  [⟨18446744073709551615, "a \"quoted\" \\ path", "bell \x07, tab \t, return \r, line \n",
      .ofParts (-262143) 1 1⟩,
    ⟨0, "", "clef 𝄞, delete \x7f, separator \u2028", .ofParts 262142 12 31⟩]

theorem FileStore.readClusters_replaceClusters_awkward :
    (∀ c ∈ awkwardClusters, c.id ≤ maxWord) ∧
      ClusterDocument.read? (ClusterDocument.write awkwardClusters) = some awkwardClusters ∧
        ∀ s : FileStore, (s.replaceClusters awkwardClusters).1 = .ok () →
          (s.replaceClusters awkwardClusters).2.readClusters = .ok awkwardClusters :=
  have hids : ∀ c ∈ awkwardClusters, c.id ≤ maxWord := by decide
  ⟨hids, FileStore.readClusters_replaceClusters hids⟩

end LogAnomaly
