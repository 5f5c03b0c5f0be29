import LogAnomaly.Scoring.Basic
import Mathlib.Data.Finset.Card

/-!
# Counting the members of clusters

Which clusters spike can be found by counting: a table has a place for every cluster, and the
messages of an interval are run through, each of which is counted once.

* `Model.membersAmong`: the messages of a cluster among some that are present;
* `count_presentClusters`: so many of them are present;
* `tally?`: the count, in which every place of the table is checked;
* `tally?_eq_some`: no place is ever missing, and the table ends with the numbers of the members;
* `countedSpikes?_eq_some`: so the clusters are found to spike that do.
-/

namespace LogAnomaly

open Finset

/-- The messages of a cluster among some that are present. -/
def Model.membersAmong (m : Model) (present : Finset Nat) (cluster : Nat) : Finset Nat :=
  present.filter fun id => m.cluster? id = some cluster

/-- The table of the numbers of members. -/
def Model.memberCounts (m : Model) (present : Finset Nat) : List Nat :=
  (List.range m.clusters.length).map fun cluster => (m.membersAmong present cluster).card

@[simp] theorem Model.length_memberCounts (m : Model) (present : Finset Nat) :
    (m.memberCounts present).length = m.clusters.length := by
  simp [memberCounts]

@[simp] theorem Model.getElem_memberCounts (m : Model) (present : Finset Nat) {cluster : Nat}
    (h : cluster < (m.memberCounts present).length) :
    (m.memberCounts present)[cluster] = (m.membersAmong present cluster).card := by
  simp [memberCounts]

/-- A message that comes in is a member of its own cluster. -/
theorem Model.membersAmong_insert (m : Model) (present : Finset Nat) (id cluster : Nat) :
    m.membersAmong (insert id present) cluster =
      if m.cluster? id = some cluster then insert id (m.membersAmong present cluster)
      else m.membersAmong present cluster :=
  filter_insert ..

/-- However often a message occurs in an interval, it is one member of its cluster. -/
theorem count_presentClusters (model : Model) (interval : Interval) (cluster : Nat) :
    (presentClusters model interval).count cluster =
      (model.membersAmong interval.messages.toFinset cluster).card := by
  have hset : model.membersAmong interval.messages.toFinset cluster =
      ((ascending interval.messages).filter
        fun id => model.cluster? id = some cluster).toFinset := by
    ext id
    simp [Model.membersAmong, mem_ascending]
  have hnodup : (ascending interval.messages).Nodup :=
    (pairwise_ascending interval.messages).imp Nat.ne_of_lt
  rw [hset, List.toFinset_card_of_nodup (hnodup.filter _), presentClusters, List.count_filterMap,
    List.countP_eq_length_filter]
  simp only [beq_eq_decide]

/-! ## The count -/

/-- Adds one at a place of a table; none if it has no such place. -/
def countAt? (place : Nat) (table : List Nat) : Option (List Nat) :=
  if h : place < table.length then some (table.set place (table[place] + 1)) else none

/-- Counts messages for their clusters, but those that were counted before and those of clusters
that the model does not have. None if a place of the table is missing. -/
def tally? (model : Model) : List Nat → Finset Nat → List Nat → Option (List Nat)
  | [], _, table => some table
  | id :: ids, counted, table =>
    if id ∈ counted then tally? model ids counted table
    else match model.cluster? id with
      | none => tally? model ids (insert id counted) table
      | some cluster =>
        if cluster < model.clusters.length then
          (countAt? cluster table).bind (tally? model ids (insert id counted))
        else tally? model ids (insert id counted) table

section

variable {model : Model} {counted : Finset Nat} {id : Nat}

/-- A message without a place in the table is no member of a cluster that has one. -/
theorem memberCounts_insert_of_ne
    (h : ∀ cluster < model.clusters.length, model.cluster? id ≠ some cluster) :
    model.memberCounts (insert id counted) = model.memberCounts counted := by
  refine List.map_congr_left fun cluster hcluster => ?_
  rw [Model.membersAmong_insert, if_neg (h cluster (List.mem_range.1 hcluster))]

/-- A message that was not counted before is one more member of its cluster. -/
theorem countAt?_memberCounts (hid : id ∉ counted) {cluster : Nat}
    (hcluster : model.cluster? id = some cluster) (hlt : cluster < model.clusters.length) :
    countAt? cluster (model.memberCounts counted) =
      some (model.memberCounts (insert id counted)) := by
  have hplace : cluster < (model.memberCounts counted).length := by simpa
  have hnew : id ∉ model.membersAmong counted cluster := fun h => hid (mem_filter.1 h).1
  rw [countAt?, dif_pos hplace, Option.some_inj]
  refine List.ext_getElem (by simp) fun c h₁ h₂ => ?_
  simp only [List.getElem_set, Model.getElem_memberCounts, Model.membersAmong_insert, hcluster,
    Option.some_inj]
  split
  · rename_i hc
    rw [← hc, card_insert_of_notMem hnew]
  · rfl

/-- One message after the other, the table tells the members among those that were counted. -/
theorem tally?_memberCounts (ids : List Nat) (counted : Finset Nat) :
    tally? model ids counted (model.memberCounts counted) =
      some (model.memberCounts (counted ∪ ids.toFinset)) := by
  induction ids generalizing counted with
  | nil => simp [tally?]
  | cons id ids ih =>
    have hunion : counted ∪ (id :: ids).toFinset = insert id counted ∪ ids.toFinset := by
      rw [List.toFinset_cons, union_insert, insert_union]
    rw [tally?, hunion]
    split
    · rename_i hid
      rw [insert_eq_of_mem hid]
      exact ih counted
    · rename_i hid
      split
      · rename_i hnone
        have hne : ∀ c < model.clusters.length, model.cluster? id ≠ some c := by simp [hnone]
        rw [← memberCounts_insert_of_ne hne]
        exact ih (insert id counted)
      · rename_i cluster hcluster
        split
        · rename_i hlt
          rw [countAt?_memberCounts hid hcluster hlt]
          exact ih (insert id counted)
        · rename_i hmissing
          have hne : ∀ c < model.clusters.length, model.cluster? id ≠ some c := by
            rintro c hc heq
            rw [hcluster] at heq
            exact hmissing (Option.some.inj heq ▸ hc)
          rw [← memberCounts_insert_of_ne hne]
          exact ih (insert id counted)

end

/-- No place of the table is missing. -/
theorem tally?_eq_some (model : Model) (ids : List Nat) :
    tally? model ids ∅ (List.replicate model.clusters.length 0) =
      some (model.memberCounts ids.toFinset) := by
  have hstart : List.replicate model.clusters.length 0 = model.memberCounts ∅ := by
    simp [Model.memberCounts, Model.membersAmong]
  rw [hstart, tally?_memberCounts, empty_union]

/-! ## The clusters that spike -/

section Spikes

variable {α : Type} [Div α] [NatCast α] [LE α] [DecidableLE α]

/-- For each cluster whether it spikes in an interval, by counting; none if a place of the table is
missing. -/
def countedSpikes? (model : Model) (fraction : α) (interval : Interval) : Option (List Bool) :=
  (tally? model interval.messages ∅ (List.replicate model.clusters.length 0)).map fun table =>
    table.zipIdx.map fun (count, cluster) => spikes fraction count (model.memberCount cluster)

/-- Counting finds the clusters that spike. -/
theorem countedSpikes?_eq_some (model : Model) (fraction : α) (interval : Interval) :
    countedSpikes? model fraction interval = some (spikingClusters model fraction interval) := by
  rw [countedSpikes?, tally?_eq_some, Option.map_some, Option.some_inj]
  refine List.ext_getElem (by simp [spikingClusters]) fun c h₁ h₂ => ?_
  have hc : c < model.clusters.length := by simpa [spikingClusters] using h₂
  simp [spikingClusters, Model.memberCount, count_presentClusters, hc]

end Spikes

end LogAnomaly
