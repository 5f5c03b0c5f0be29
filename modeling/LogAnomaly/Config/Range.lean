import LogAnomaly.Config.Basic
import LogAnomaly.Config.Error

/-!
# Ranges of settings

* `Config.validate`: the first rule that a configuration breaks. The rules are listed in the order
  in which they are checked.
-/

namespace LogAnomaly

/-- A rule about one field: what holds of it, and what is reported if it does not. -/
structure RangeRule where
  holds : Bool
  field : String
  fault : RangeFault

/-- The first of the rules that is broken. -/
def checkRules : List RangeRule → Except ConfigError Unit
  | [] => .ok ()
  | rule :: rules =>
    if rule.holds then checkRules rules else .error (.outOfRange rule.field rule.fault)

/-- Rules are kept if each of them holds. -/
theorem checkRules_eq_ok {rules : List RangeRule} :
    checkRules rules = .ok () ↔ ∀ rule ∈ rules, rule.holds := by
  induction rules with
  | nil => simp [checkRules]
  | cons rule rules ih =>
    unfold checkRules
    split
    · rename_i h
      simp [h, ih]
    · rename_i h
      simp [h]

/-- A part of the whole: above 0 and at most 1. -/
def isFraction (x : Float) : Bool := 0 < x && x ≤ 1

/-- The rules of the clustering section. -/
def ClusteringSettings.rules (c : ClusteringSettings) : List RangeRule :=
  [⟨0 < c.maxTextLength, "max_text_length", .zero⟩,
   ⟨0 < c.thresholdFactor && c.thresholdFactor.isFinite, "threshold_factor",
    .notPositive c.thresholdFactor⟩,
   ⟨c.thresholdDelta.isFinite, "threshold_delta", .notFinite⟩,
   ⟨0 < c.lockTimeoutMs, "lock_timeout_ms", .zero⟩]

/-- The rules of the training section. -/
def TrainingSettings.rules (c : TrainingSettings) : List RangeRule :=
  [⟨1 ≤ c.numClusters, "num_clusters", .belowOne⟩,
   ⟨1 ≤ c.numRuns, "num_runs", .belowOne⟩,
   ⟨1 ≤ c.maxTrials, "max_trials", .belowOne⟩,
   ⟨1 ≤ c.maxIdleTrials, "max_idle_trials", .belowOne⟩,
   ⟨1 ≤ c.minClusterSize, "min_cluster_size", .belowOne⟩,
   ⟨c.alpha.isFinite, "alpha", .notFinite⟩,
   ⟨!c.timeline || 1 ≤ c.ticksPerInterval, "ticks_per_interval", .noTicks⟩]
  ++ (match c.minAvgInfoRatio with
    | some ratio => [⟨0 ≤ ratio && ratio.isFinite, "min_avg_info_ratio", .negative ratio⟩]
    | none => [])

/-- The rules of the scoring section. -/
def ScoringSettings.rules (c : ScoringSettings) : List RangeRule :=
  [⟨isFraction c.contextFraction, "context_fraction", .notFraction c.contextFraction⟩,
   ⟨isFraction c.uniquifyFraction, "uniquify_fraction", .notFraction c.uniquifyFraction⟩]

/-- Whether both sources of a starting partition are named. -/
def TrainingSettings.sourcesConflict (c : TrainingSettings) : Bool :=
  c.initialAssignment.isSome && c.initialModel.isSome

/-- Checks the clustering section. -/
def ClusteringSettings.validate (c : ClusteringSettings) : Except ConfigError Unit :=
  checkRules c.rules

/-- Checks the training section; its sources come first. -/
def TrainingSettings.validate (c : TrainingSettings) : Except ConfigError Unit :=
  if c.sourcesConflict then .error .conflictingSources else checkRules c.rules

/-- Checks the scoring section. -/
def ScoringSettings.validate (c : ScoringSettings) : Except ConfigError Unit := checkRules c.rules

/-- Checks the sections in their order. -/
def Config.validate (c : Config) : Except ConfigError Unit := do
  c.clustering.validate
  c.training.validate
  c.scoring.validate

end LogAnomaly
