import LogAnomaly.Proofs.Ascending
import LogAnomaly.Proofs.Json.Floats
import LogAnomaly.Proofs.Time.Parts
import LogAnomaly.Proofs.Time.Written
import LogAnomaly.Proofs.Uuid
import LogAnomaly.Training.Document

/-!
# Models that read back

* `Json.Key.nat?_idKey`: a number that is the name of a field is read as it was written;
* `IdMap.ofJson?_toJson`, `TrainedCluster.ofJson?_toJson`, `Model.ofJson?_toJson`: the parts of a model
  and the whole of it;
* `Model.InWords`: all numbers of a model are words of 64 bits;
* `Model.read_undoes_write`: a model is read as it was written, and then written as before.
-/

namespace LogAnomaly

open LogAnomaly.Json LogAnomaly.Text

/-! ## Numbers as names -/

theorem escapeChar_of_digit {c : Char} (h : isAsciiDigit c = true) : escapeChar c = [c] := by
  unfold escapeChar
  split
  case h_8 =>
    simp only [isAsciiDigit, Bool.and_eq_true, decide_eq_true_eq] at h
    rw [if_neg (by omega)]
  all_goals cases h

theorem spelled_idKey (id : Nat) : Spelled (idKey id) := by
  intro c hc
  rw [idKey, String.toList_ofList] at hc
  exact escapeChar_of_digit (isAsciiDigit_of_mem_toDigits hc)

/-- A number is read from its name. -/
theorem Json.Key.nat?_idKey {id : Nat} (h : id ≤ maxWord) :
    (Key.plain (idKey id)).nat? = some id := by
  have hdigits : (Nat.toDigits 10 id).all isAsciiDigit = true :=
    List.all_eq_true.2 fun _ => isAsciiDigit_of_mem_toDigits
  simp [Key.nat?, idKey, hdigits, digitsValue_toDigits, h, Nat.toDigits_ne_nil]

/-! ## Maps and sets -/

theorem IdMap.canonical_toJson (m : IdMap Nat) : m.toJson.Canonical := by
  refine .record ?_ ?_
  all_goals
    intro field hfield
    obtain ⟨entry, -, rfl⟩ := List.mem_map.1 hfield
  · exact spelled_idKey _
  · exact .ofNat _

/-- A map is known by its entries. -/
theorem IdMap.eq_of_toList {β : Type} {m n : IdMap β} (h : m.toList = n.toList) : m = n := by
  cases m
  cases n
  cases h
  rfl

theorem IdMap.ofList_toList {β : Type} (m : IdMap β) : IdMap.ofList m.toList = m :=
  IdMap.eq_of_toList (IdMap.toList_ofList m.pairwise)

/-- A map is read as it was written. -/
theorem IdMap.ofJson?_toJson {m : IdMap Nat}
    (h : ∀ entry ∈ m.toList, entry.1 ≤ maxWord ∧ entry.2 ≤ maxWord) :
    IdMap.ofJson? m.toJson = some m := by
  have hobject : m.toJson =
      .object (m.toList.map fun entry => (.plain (idKey entry.1), .ofNat entry.2)) :=
    congrArg Json.object List.map_map
  have hentries : (m.toList.map fun entry => ((.plain (idKey entry.1), .ofNat entry.2) :
      Key × Json)).mapM (fun field => do return (← field.1.nat?, ← field.2.nat?)) =
        some (m.toList.map id) :=
    mapM_map fun entry hentry => by
      simp [Json.Key.nat?_idKey (h entry hentry).1, nat?_ofNat (h entry hentry).2]
  rw [hobject, IdMap.ofJson?, hentries, List.map_id, Option.map_some, IdMap.ofList_toList]

theorem IdSet.ofList_toList (s : IdSet) : IdSet.ofList s.toList = s :=
  IdSet.ext fun _ => mem_ascending

/-! ## Clusters -/

theorem TrainedCluster.canonical_toJson {c : TrainedCluster} (h : FloatReadsBack c.meanInfo) :
    c.toJson.Canonical := by
  refine .record ?_ ?_
  all_goals
    simp only [List.forall_mem_cons, List.not_mem_nil, false_implies, implies_true, and_true]
  · decide
  · exact ⟨.ofNat _, .ofNat _, h.canonical, .ofNat _⟩

/-- The numbers of a cluster are words of 64 bits. -/
structure TrainedCluster.InWords (c : TrainedCluster) : Prop where
  clusterId_le : c.clusterId ≤ maxWord
  size_le : c.size ≤ maxWord
  rawIndex_le : c.rawIndex ≤ maxWord

/-- A cluster is read as it was written. -/
theorem TrainedCluster.ofJson?_toJson {c : TrainedCluster} (hwords : c.InWords)
    (hfloat : FloatReadsBack c.meanInfo) : TrainedCluster.ofJson? c.toJson = some c := by
  have hfields : c.toJson.record? [("cluster_id", .refused), ("size", .refused),
      ("mean_info", .refused), ("raw_index", .refused)] =
      some [some (.ofNat c.clusterId), some (.ofNat c.size), some (ofFloat c.meanInfo),
        some (.ofNat c.rawIndex)] := record?_record _ (by simp)
  rw [TrainedCluster.ofJson?, hfields]
  simp only [Option.bind_eq_bind, Option.bind_some, nat?_ofNat hwords.clusterId_le,
    nat?_ofNat hwords.size_le, nat?_ofNat hwords.rawIndex_le, hfloat.float?]
  rfl

namespace Model

/-! ## Models -/

/-- All numbers of a model are words of 64 bits. -/
structure InWords (m : Model) : Prop where
  intervals_le : m.intervals ≤ maxWord
  assignments_le : ∀ entry ∈ m.assignments.toList, entry.1 ≤ maxWord ∧ entry.2 ≤ maxWord
  seen_le : ∀ id ∈ m.seen.toList, id ≤ maxWord
  clusters_in_words : ∀ c ∈ m.clusters, c.InWords

variable {m : Model}

theorem canonical_toJson (hfloat : ∀ c ∈ m.clusters, FloatReadsBack c.meanInfo) :
    m.toJson.Canonical := by
  refine .record ?_ ?_
  all_goals
    simp only [List.forall_mem_cons, List.not_mem_nil, false_implies, implies_true, and_true]
  · decide
  · exact ⟨.string _, .string _, .ofNat _, m.assignments.canonical_toJson,
      .ofList fun id _ => .ofNat id,
      .ofList fun c hc => TrainedCluster.canonical_toJson (hfloat c hc)⟩

/-- A model is read from its document as it was written. -/
theorem ofJson?_toJson (hwords : m.InWords)
    (hfloat : ∀ c ∈ m.clusters, FloatReadsBack c.meanInfo) : ofJson? m.toJson = some m := by
  have hfields : m.toJson.record? [("model_id", .refused), ("trained_at", .refused),
      ("intervals", .refused), ("assignments", .refused), ("seen", .refused),
      ("clusters", .refused)] =
      some [some (.string m.stamp.modelId.write), some (.string m.stamp.trainedAt.write),
        some (.ofNat m.intervals), some m.assignments.toJson,
        some (.ofList .ofNat m.seen.toList),
        some (.ofList TrainedCluster.toJson m.clusters)] := record?_record _ (by simp)
  have hseen : (Json.ofList .ofNat m.seen.toList).list? nat? = some m.seen.toList :=
    list?_ofList fun id hid => nat?_ofNat (hwords.seen_le id hid)
  have hclusters : (Json.ofList TrainedCluster.toJson m.clusters).list? TrainedCluster.ofJson? =
      some m.clusters :=
    list?_ofList fun c hc =>
      TrainedCluster.ofJson?_toJson (hwords.clusters_in_words c hc) (hfloat c hc)
  rw [ofJson?, hfields]
  simp only [Option.bind_eq_bind, Option.bind_some, text?, Uuid.parse?_write, Instant.parse?_write,
    nat?_ofNat hwords.intervals_le, IdMap.ofJson?_toJson hwords.assignments_le, hseen,
    IdSet.ofList_toList, hclusters]
  rfl

/-- A model with finite means is read as it was written, and then written as before. The floats are
taken to be read as they were written; for all else this is proved. -/
theorem read_undoes_write (hwords : m.InWords)
    (hfinite : ∀ c ∈ m.clusters, c.meanInfo.isFinite = true)
    (hfloat : ∀ c ∈ m.clusters, c.meanInfo.isFinite = true → FloatReadsBack c.meanInfo) :
    read? m.write = some m ∧ ∀ loaded, read? m.write = some loaded → loaded.write = m.write := by
  have hback : ∀ c ∈ m.clusters, FloatReadsBack c.meanInfo := fun c hc =>
    hfloat c hc (hfinite c hc)
  have hread : read? m.write = some m := by
    rw [read?, write, parse?_pretty (canonical_toJson hback), Option.bind_eq_bind,
      Option.bind_some, ofJson?_toJson hwords hback]
  refine ⟨hread, fun loaded hloaded => ?_⟩
  rw [Option.some.inj (hloaded.symm.trans hread)]

/-- Greatest numbers, a leap second of a year of five digits, and means of either layout. -/
def greatNumbers : Model where
  stamp := {
    modelId := ⟨Vector.ofFn fun i => ⟨i.val / 2, by omega⟩⟩
    trainedAt := .ofParts (.ofParts 12016 12 31) 86399 1000000500 }
  intervals := 18446744073709551615
  assignments := ⟨[(0, 0), (7, 0), (18446744073709551615, 1)], by decide⟩
  seen := ⟨[0, 5, 7, 18446744073709551615], by decide⟩
  clusters := [⟨0, 2, 0.6931471805599453, 18446744073709551615⟩, ⟨1, 1, 2.5e-7, 0⟩]

theorem read_undoes_write_greatNumbers :
    greatNumbers.InWords ∧ (∀ c ∈ greatNumbers.clusters, c.meanInfo.isFinite = true) ∧
      (∀ c ∈ greatNumbers.clusters, c.meanInfo.isFinite = true → FloatReadsBack c.meanInfo) ∧
        read? greatNumbers.write = some greatNumbers ∧
          ∀ loaded, read? greatNumbers.write = some loaded → loaded.write = greatNumbers.write :=
  have hwords : greatNumbers.InWords :=
    ⟨by decide, by decide, by decide, List.forall_mem_cons.2 ⟨⟨by decide, by decide, by decide⟩,
      List.forall_mem_cons.2 ⟨⟨by decide, by decide, by decide⟩, by simp⟩⟩⟩
  have hfinite : ∀ c ∈ greatNumbers.clusters, c.meanInfo.isFinite = true := by decide +kernel
  have hfloat : ∀ c ∈ greatNumbers.clusters, c.meanInfo.isFinite = true →
      FloatReadsBack c.meanInfo := by decide +kernel
  ⟨hwords, hfinite, hfloat, read_undoes_write hwords hfinite hfloat⟩

end Model

end LogAnomaly
