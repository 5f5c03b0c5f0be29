/-!
# Configuration

* `Config`: the settings of one run, in three sections. Their defaults are those of the fields.
-/

namespace LogAnomaly

/-- Words whose presence decides similarity whatever the other words are. -/
def usualMagicWords : List String :=
  ["start", "started", "stop", "stopped", "up", "down", "open", "opened", "close", "closed",
   "accepted", "rejected", "failed", "succeeded", "enabled", "disabled", "connected",
   "disconnected"]

/-- How messages are gathered into text clusters. -/
structure ClusteringSettings where
  /-- Normalized texts are cut to this many characters. -/
  maxTextLength : Nat := 1024
  thresholdDelta : Float := 1
  thresholdFactor : Float := 3
  magicWords : List String := usualMagicWords
  /-- Components whose texts are compared as one token. -/
  wholeStringComponents : List String := []
  lockTimeoutMs : Nat := 30000
  /-- The directory of the cluster store; clusters are not kept without one. -/
  storeDir : Option String := none

/-- How a model is trained. -/
structure TrainingSettings where
  /-- Ids that appear in this many intervals or fewer are left out. -/
  minAppearances : Nat := 1
  /-- Whether ids co-occur by ticks rather than by intervals. -/
  timeline : Bool := false
  ticksPerInterval : Nat := 60
  numClusters : Nat := 20
  numRuns : Nat := 10
  seed : UInt64 := 42
  alpha : Float := 0
  maxTrials : Nat := 100000
  maxIdleTrials : Nat := 2000
  minClusterSize : Nat := 2
  minAvgInfoRatio : Option Float := none
  /-- A file with a starting cluster for every id. -/
  initialAssignment : Option String := none
  /-- A file with a model whose clusters the search starts from. -/
  initialModel : Option String := none

/-- How messages are scored. -/
structure ScoringSettings where
  contextFraction : Float := 0.2
  uniquifyFraction : Float := 0.5
  newWeight : Float := 1
  unclusteredWeight : Float := 0.5
  outOfContextWeight : Float := 0.25
  inContextWeight : Float := 0

/-- The settings of one run. -/
structure Config where
  /-- The name of the profile, empty for the default one. -/
  profile : String := ""
  clustering : ClusteringSettings := {}
  training : TrainingSettings := {}
  scoring : ScoringSettings := {}

/-- The name under which a profile is shown. -/
def Config.shownProfile (config : Config) : String :=
  if config.profile.isEmpty then "default" else config.profile

end LogAnomaly
