import LogAnomaly.Scoring.Basic

/-!
# Scorers

* `Scorer`: a model with a fraction and weights, and a cache of what is known of one interval;
* `Scorer.scoreOne`: what is said of one message;
* `Scorer.scoreAll`: what is said of all messages of an interval, in their order.

In the mode `uniquify` the first message of a spiking cluster stands for the others.
-/

namespace LogAnomaly

/-- Whether every message counts on its own or one stands for the others of its cluster. -/
inductive ScoringMode where
  | context
  | uniquify
  deriving DecidableEq, Repr

/-- What is known of the clusters in an interval. -/
inductive SpikeCache where
  | invalid
  /-- For each cluster whether it spikes, and whether a message stands for it already. -/
  | valid (intervalId : Nat) (spiking represented : List Bool)
  deriving DecidableEq, Repr

/-- Whether a cache is about the interval with an id. -/
def SpikeCache.isAbout (id : Nat) : SpikeCache → Bool
  | .invalid => false
  | .valid intervalId _ _ => intervalId == id

/-- A model with all that scoring needs. -/
structure Scorer (α : Type) where
  mode : ScoringMode
  model : Model
  fraction : α
  weights : AnomalyWeights α
  cache : SpikeCache := .invalid

namespace Scorer

/-- The scorer of a mode with the settings of a configuration. -/
def ofConfig (mode : ScoringMode) (model : Model) (config : ScoringSettings) : Scorer Float where
  mode
  model
  fraction := match mode with
    | .context => config.contextFraction
    | .uniquify => config.uniquifyFraction
  weights := .ofConfig config

variable {α : Type} [Div α] [NatCast α] [LE α] [DecidableLE α]

/-- What is known of an interval before any of its messages is scored. -/
def freshCache (s : Scorer α) (interval : Interval) : SpikeCache :=
  .valid interval.id (spikingClusters s.model s.fraction interval)
    (s.model.clusters.map fun _ => false)

/-- Makes sure that the cache is about an interval. One about an interval with the same id is
kept. -/
def prepare (interval : Interval) (s : Scorer α) : Scorer α :=
  if s.cache.isAbout interval.id then s else { s with cache := s.freshCache interval }

/-- The label of a message and its cluster. -/
def cachedLabel (s : Scorer α) (messageId : Nat) : ContextLabel × Option Nat :=
  labelOf s.model (match s.cache with | .invalid => [] | .valid _ spiking _ => spiking) messageId

/-- Lets a message stand for a cluster, unless another one does already. -/
def standFor (cluster : Nat) (s : Scorer α) : Bool × Scorer α :=
  match s.cache with
  | .invalid => (false, s)
  | .valid id spiking represented =>
    if represented[cluster]? = some false then
      (true, { s with cache := .valid id spiking (represented.set cluster true) })
    else (false, s)

/-- Whether a message stands for its cluster. -/
def representation (label : ContextLabel) (cluster : Option Nat) (s : Scorer α) :
    Bool × Scorer α :=
  match s.mode, label, cluster with
  | .uniquify, .inContext, some cluster => s.standFor cluster
  | _, _, _ => (false, s)

/-- Scores a message of an interval. -/
def scoreOne (interval : Interval) (messageId : Nat) (s : Scorer α) :
    MessageScore α × Scorer α :=
  let s := s.prepare interval
  let (label, cluster) := s.cachedLabel messageId
  let (representative, s) := s.representation label cluster
  (⟨messageId, interval.id, label, cluster, representative, s.weights.weight label⟩, s)

/-- Scores messages of an interval one after the other. -/
def scoreList (interval : Interval) : List Nat → Scorer α → List (MessageScore α) × Scorer α
  | [], s => ([], s)
  | id :: ids, s =>
    let (stats, s) := s.scoreOne interval id
    let (rest, s) := scoreList interval ids s
    (stats :: rest, s)

/-- Scores all messages of an interval. Where one message stands for others, each interval starts
with a new cache. -/
def scoreAll (interval : Interval) (s : Scorer α) : List (MessageScore α) × Scorer α :=
  let s := match s.mode with
    | .context => s
    | .uniquify => { s with cache := .invalid }
  s.scoreList interval interval.messages

/-- Scores intervals one after the other. -/
def scoreIntervals : List Interval → Scorer α → List (MessageScore α) × Scorer α
  | [], s => ([], s)
  | interval :: intervals, s =>
    let (stats, s) := s.scoreAll interval
    let (rest, s) := scoreIntervals intervals s
    (stats ++ rest, s)

end Scorer

end LogAnomaly
