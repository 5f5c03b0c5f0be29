import LogAnomaly.Cluster.Basic
import LogAnomaly.Cluster.Error
import LogAnomaly.Cluster.Fingerprint
import LogAnomaly.Time.Instant

/-!
# Component models

* `ClusterRules`: how the texts of a component are prepared and compared;
* `Observation`: a text ready to be compared;
* `ComponentModel`: the clusters of a component, the one matched last in front;
* `CountedModel`: a component model with the counter that it draws its ids from;
* `ComponentModel.closeFrom?`, `ComponentModel.recordMatch`: the first close cluster, and what a
  match does to the cluster at a place;
* `CountedModel.merge`, `CountedModel.create`: clusters of others, a cluster of its own;
* `CountedModel.add`: the cluster of a text, for a model without a store.
-/

namespace LogAnomaly

/-- How the texts of a component are prepared and compared. -/
structure ClusterRules where
  preprocessor : Preprocessor
  tolerance : Tolerance
  /-- Normalized texts are cut to this many characters. -/
  maxTextLength : Nat := 1024
  /-- How long a new cluster waits for the lock of the store. -/
  lockTimeoutMs : Nat := 30000

/-- A text ready to be compared: normalized and cut, with its fingerprint and its day. -/
structure Observation where
  text : String
  fingerprint : Fingerprint
  day : Day
  deriving DecidableEq, Repr

namespace ClusterRules

/-- The normalized text, cut to the greatest length. -/
def normalized (rules : ClusterRules) (text : String) : String :=
  String.ofList ((rules.preprocessor.normalize text).toList.take rules.maxTextLength)

/-- The fingerprint of a normalized text. -/
def fingerprint (rules : ClusterRules) (text : String) : Fingerprint :=
  .ofText rules.preprocessor text

/-- Prepares a text. -/
def observe (rules : ClusterRules) (text : String) (time : Instant) : Observation :=
  let normalized := rules.normalized text
  ⟨normalized, rules.fingerprint normalized, time.day⟩

/-- Whether a known fingerprint is close to that of a text. -/
def accepts (rules : ClusterRules) (known other : Fingerprint) : Bool :=
  known.isNear rules.tolerance other

end ClusterRules

/-- A cluster with the fingerprint of its representative. -/
structure Entry where
  cluster : TextCluster
  fingerprint : Fingerprint
  deriving DecidableEq, Repr

/-- Whether a text joined a cluster or made one. -/
inductive Outcome where
  | matched
  | created
  deriving DecidableEq, Repr

/-- The cluster of a text. -/
structure Assignment where
  clusterId : Nat
  outcome : Outcome
  deriving DecidableEq, Repr

/-- The cluster of a text, and whether its day passes the one known for the cluster. -/
structure Placement where
  assignment : Assignment
  advanced : Bool
  deriving DecidableEq, Repr

/-- The clusters of one component. -/
structure ComponentModel where
  component : String
  rules : ClusterRules
  /-- In the order in which they are searched. -/
  entries : List Entry := []
  /-- The ids of the clusters. -/
  ids : List Nat := []
  /-- The greatest id up to which the store is known. -/
  knownUpTo : Option Nat := none

/-- The cluster with its day brought forward. -/
def Entry.observedOn (day : Day) (entry : Entry) : Entry :=
  { entry with cluster := { entry.cluster with
      lastObserved := entry.cluster.lastObserved.latest day } }

namespace ComponentModel

/-- The clusters in the order in which they are searched. -/
def clusters (m : ComponentModel) : List TextCluster := m.entries.map (·.cluster)

/-- The cluster with an id. -/
def cluster? (id : Nat) (m : ComponentModel) : Option TextCluster :=
  m.clusters.find? (·.id == id)

/-- Notes that the store is known up to an id. -/
def catchUpTo (greatest : Option Nat) (m : ComponentModel) : ComponentModel :=
  { m with knownUpTo := laterId m.knownUpTo greatest }

/-- The place of the first close cluster from the given place on. -/
def closeFrom? (start : Nat) (o : Observation) (m : ComponentModel) : Option Nat :=
  ((m.entries.drop start).findIdx? fun entry =>
    m.rules.accepts entry.fingerprint o.fingerprint).map (start + ·)

theorem closeFrom?_lt {start place : Nat} {o : Observation} {m : ComponentModel}
    (h : m.closeFrom? start o = some place) : place < m.entries.length := by
  obtain ⟨offset, hoffset, rfl⟩ := Option.map_eq_some_iff.1 h
  have hlt := (List.findIdx?_eq_some_iff_findIdx_eq.1 hoffset).1
  rw [List.length_drop] at hlt
  omega

/-- Records the day of a text for the cluster at a place and moves the cluster to the front. -/
def recordMatch (place : Nat) (o : Observation) (m : ComponentModel) :
    Except AssignmentError (Placement × ComponentModel) :=
  match m.entries[place]? with
  | none => .error (.strayPlace m.component place)
  | some entry =>
    .ok (⟨⟨entry.cluster.id, .matched⟩, entry.cluster.lastObserved < o.day⟩,
      { m with entries := entry.observedOn o.day :: m.entries.eraseIdx place })

/-- Puts a cluster in front. -/
def putInFront (id : Nat) (o : Observation) (m : ComponentModel) : ComponentModel :=
  { m with
    entries := ⟨⟨id, m.component, o.text, o.day⟩, o.fingerprint⟩ :: m.entries
    ids := id :: m.ids }

end ComponentModel

/-- A component model with the counter that it draws its ids from. -/
structure CountedModel where
  model : ComponentModel
  counter : IdCounter

namespace CountedModel

/-- Puts a cluster at the end, unless its id is known. -/
def absorb (w : CountedModel) (cluster : TextCluster) : CountedModel :=
  if w.model.ids.contains cluster.id then w
  else
    { model := { w.model with
        entries := w.model.entries ++ [⟨cluster, w.model.rules.fingerprint cluster.representative⟩]
        ids := cluster.id :: w.model.ids }
      counter := w.counter.reserve cluster.id }

/-- Puts clusters at the end, in their order. -/
def merge (clusters : List TextCluster) (w : CountedModel) : CountedModel :=
  clusters.foldl absorb w

/-- Makes a cluster with the next id. -/
def create (o : Observation) (w : CountedModel) : Placement × CountedModel :=
  let (id, counter) := w.counter.giveId
  (⟨⟨id, .created⟩, false⟩, ⟨w.model.putInFront id o, counter⟩)

/-- Takes in a cluster that the store has made. -/
def adopt (id : Nat) (o : Observation) (w : CountedModel) : CountedModel :=
  ⟨(w.model.catchUpTo (some id)).putInFront id o, w.counter.reserve id⟩

/-- Records the day of a text for the cluster at a place. -/
def recordMatch (place : Nat) (o : Observation) (w : CountedModel) :
    Except AssignmentError Placement × CountedModel :=
  match w.model.recordMatch place o with
  | .error e => (.error e, w)
  | .ok (placement, model) => (.ok placement, { w with model })

/-- The cluster of a text among those of a model that has them for itself: the first close one or a
new one. -/
def place (o : Observation) (w : CountedModel) : Except AssignmentError Placement × CountedModel :=
  match w.model.closeFrom? 0 o with
  | some place => w.recordMatch place o
  | none =>
    let (placement, w) := w.create o
    (.ok placement, w)

theorem place_ne_error (o : Observation) (w : CountedModel) (e : AssignmentError) :
    (w.place o).1 ≠ .error e := by
  rw [place]
  split
  · rename_i place hclose
    rw [recordMatch, ComponentModel.recordMatch,
      List.getElem?_eq_getElem (ComponentModel.closeFrom?_lt hclose)]
    exact fun h => nomatch h
  · exact fun h => nomatch h

/-- The cluster of a text. A place that was just found is never out of range, so there is always
one. -/
def add (text : String) (time : Instant) (w : CountedModel) : Assignment × CountedModel :=
  match h : w.place (w.model.rules.observe text time) with
  | (.ok placement, w) => (placement.assignment, w)
  | (.error e, _) => absurd (congrArg Prod.fst h) (place_ne_error _ w e)

end CountedModel

end LogAnomaly
