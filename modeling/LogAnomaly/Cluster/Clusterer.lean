import LogAnomaly.Cluster.Shared

/-!
# Clusterers

* `Clusterer`: one model for each component, all with ids of one counter;
* `Clusterer.add`, `Clusterer.addShared`: the cluster of a text, without and with a store;
* `Clusterer.load`: all clusters of a store.

A model is made at the first use of its component.
-/

namespace LogAnomaly

/-- One model for each component, all with ids of one counter. -/
structure Clusterer where
  counter : IdCounter := .inWords {}
  /-- In the order of their first use. -/
  models : List ComponentModel := []
  preprocessor : Preprocessor
  /-- What prepares the texts of single components; the first one of a component counts. -/
  ownPreprocessors : List (String × Preprocessor) := []
  magicWords : List String
  tolerance : Tolerance
  maxTextLength : Nat := 1024
  lockTimeoutMs : Nat := 30000

namespace Clusterer

/-- Texts of a component are prepared by rules of their own. -/
def prepareApart (component : String) (preprocessor : Preprocessor)
    (c : Clusterer) : Clusterer :=
  { c with ownPreprocessors := (component, preprocessor) :: c.ownPreprocessors }

/-- Texts of a component are compared as a whole. -/
def withWholeTexts (component : String) (c : Clusterer) : Clusterer :=
  c.prepareApart component (.standard c.magicWords .whole)

/-- A clusterer without any clusters. -/
def ofConfig (config : ClusteringSettings) : Clusterer :=
  config.wholeStringComponents.foldl (fun c component => c.withWholeTexts component)
    { preprocessor := .standard config.magicWords .words
      magicWords := config.magicWords
      tolerance := (LinearTolerance.mk config.thresholdDelta config.thresholdFactor).toTolerance
      maxTextLength := config.maxTextLength
      lockTimeoutMs := config.lockTimeoutMs }

/-- The rules of a component. -/
def rules (component : String) (c : Clusterer) : ClusterRules where
  preprocessor := (c.ownPreprocessors.lookup component).getD c.preprocessor
  tolerance := c.tolerance
  maxTextLength := c.maxTextLength
  lockTimeoutMs := c.lockTimeoutMs

/-- The model of a component, if it has been used. -/
def model? (component : String) (c : Clusterer) : Option ComponentModel :=
  c.models.find? (·.component == component)

/-- The model of a component, a new one if it has not been used. -/
def model (component : String) (c : Clusterer) : ComponentModel :=
  (c.model? component).getD { component, rules := c.rules component }

/-- The model of a component with the counter. -/
def counted (component : String) (c : Clusterer) : CountedModel := ⟨c.model component, c.counter⟩

/-- Puts a model in the place of the one of its component. -/
def replaceModel (m : ComponentModel) : List ComponentModel → List ComponentModel
  | [] => [m]
  | old :: rest => if old.component == m.component then m :: rest else old :: replaceModel m rest

/-- Takes in a model and the counter after a step of it. -/
def update (c : Clusterer) (w : CountedModel) : Clusterer :=
  { c with models := replaceModel w.model c.models, counter := w.counter }

/-- The cluster of a text. -/
def add (component text : String) (time : Instant) (c : Clusterer) : Assignment × Clusterer :=
  let (assignment, w) := (c.counted component).add text time
  (assignment, c.update w)

/-- The cluster of a text, new ones being made in a store. -/
def addShared {σ : Type} [ClusterStore σ] (component text : String) (time : Instant)
    (c : Clusterer) (s : σ) : Except AssignmentError Assignment × Clusterer × σ :=
  let (result, w, s) := (c.counted component).addShared text time s
  (result, c.update w, s)

/-- Takes in a stored cluster, unless its component has it. -/
def absorb (c : Clusterer) (cluster : TextCluster) : Clusterer :=
  c.update ((c.counted cluster.component).absorb cluster)

/-- The number of clusters. -/
def size (c : Clusterer) : Nat := (c.models.map fun m => m.entries.length).foldr (· + ·) 0

/-- The greatest id of any cluster. -/
def greatestId (c : Clusterer) : Option Nat := c.counter.greatestAssigned

/-- The clusters of a component, the one matched last in front. -/
def clusters (component : String) (c : Clusterer) : List TextCluster :=
  ((c.model? component).map (·.clusters)).getD []

/-- Takes in all clusters of a store, and notes for every model that it knows the store. -/
def takeIn (stored : List TextCluster) (c : Clusterer) : Clusterer :=
  let loaded := stored.foldl absorb c
  let storeMax := LogAnomaly.greatestId stored
  { loaded with
    counter := match storeMax with
      | none => loaded.counter
      | some id => loaded.counter.reserve id
    models := loaded.models.map (·.catchUpTo storeMax) }

/-- Loads all clusters of a store; the answer is the number of those that were new. -/
def load {σ : Type} [ClusterStore σ] (c : Clusterer) (s : σ) :
    Except AssignmentError (Nat × Clusterer) :=
  match ClusterStore.loadAll s with
  | .error e => .error (.store "*" .loadAll e)
  | .ok stored =>
    let loaded := c.takeIn stored
    .ok (loaded.size - c.size, loaded)

end Clusterer

end LogAnomaly
