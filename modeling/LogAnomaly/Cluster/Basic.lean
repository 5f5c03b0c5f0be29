import LogAnomaly.Time.Day
import LogAnomaly.Word

/-!
# Text clusters

* `TextCluster`: a group of similar texts of one component;
* `IdCounter`: the source of new cluster ids;
* `idRank`: the order of greatest ids, of which there may be none yet.
-/

namespace LogAnomaly

/-- A group of similar texts of one component. -/
structure TextCluster where
  id : Nat
  component : String
  /-- The normalized text that the group was made for; it stands for every member. -/
  representative : String
  lastObserved : Day
  deriving DecidableEq, Repr

/-- The place of a greatest id: none comes before all ids. It is the id that follows. -/
def idRank : Option Nat → Nat
  | none => 0
  | some id => id + 1

/-- The greater of two greatest ids. -/
def laterId (a b : Option Nat) : Option Nat := if idRank a < idRank b then b else a

/-- The greatest id of a list of clusters. -/
def greatestId (clusters : List TextCluster) : Option Nat := (clusters.map (·.id)).max?

/-- The clusters of a component whose ids are greater than a given one. -/
def selectClusters (component : String) (after : Option Nat) (clusters : List TextCluster) :
    List TextCluster :=
  clusters.filter fun c => c.component == component && idRank after ≤ c.id

/-- The source of new cluster ids. -/
structure IdCounter where
  next : Nat := 0
  /-- The number of ids, if they are limited: after the last one they start over. -/
  limit : Option Nat := none
  deriving DecidableEq, Repr

namespace IdCounter

/-- A counter whose first id follows a given one. -/
def ofGreatest (greatest : Option Nat) : IdCounter := { next := idRank greatest }

/-- The counter with the ids of 64 bits. -/
def inWords (counter : IdCounter) : IdCounter := { counter with limit := some wordCount }

/-- A new id, and the counter after it. -/
def giveId (counter : IdCounter) : Nat × IdCounter :=
  let after := counter.next + 1
  (counter.next, { counter with
    next := match counter.limit with
      | none => after
      | some limit => after % limit })

/-- Makes sure that an id is not given again. -/
def reserve (counter : IdCounter) (id : Nat) : IdCounter :=
  { counter with next := max counter.next (id + 1) }

/-- The greatest id that was given or observed. -/
def greatestAssigned (counter : IdCounter) : Option Nat :=
  if counter.next = 0 then none else some (counter.next - 1)

end IdCounter

end LogAnomaly
