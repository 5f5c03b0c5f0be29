import LogAnomaly.Config.Environment
import LogAnomaly.Json.Decode
import LogAnomaly.Json.Printer

/-!
# Configurations as documents

* `Config.toJson`, `Config.ofJson?`: a configuration as a JSON record, one record a section;
* the same for the three sections.
-/

namespace LogAnomaly

open LogAnomaly.Json

/-- A text that may be missing. -/
def Json.ofText? (text : Option String) : Json := .ofOption .string text

/-- The clustering section as a document. -/
def ClusteringSettings.toJson (c : ClusteringSettings) : Json :=
  .record
    [("max_text_length", .ofNat c.maxTextLength),
     ("threshold_delta", .ofFloat c.thresholdDelta),
     ("threshold_factor", .ofFloat c.thresholdFactor),
     ("magic_words", .ofList .string c.magicWords),
     ("whole_string_components", .ofList .string c.wholeStringComponents),
     ("lock_timeout_ms", .ofNat c.lockTimeoutMs),
     ("store_dir", .ofText? c.storeDir)]

/-- The training section as a document. -/
def TrainingSettings.toJson (c : TrainingSettings) : Json :=
  .record
    [("min_appearances", .ofNat c.minAppearances),
     ("timeline", .bool c.timeline),
     ("ticks_per_interval", .ofNat c.ticksPerInterval),
     ("num_clusters", .ofNat c.numClusters),
     ("num_runs", .ofNat c.numRuns),
     ("seed", .ofNat c.seed.toNat),
     ("alpha", .ofFloat c.alpha),
     ("max_trials", .ofNat c.maxTrials),
     ("max_idle_trials", .ofNat c.maxIdleTrials),
     ("min_cluster_size", .ofNat c.minClusterSize),
     ("min_avg_info_ratio", .ofOption .ofFloat c.minAvgInfoRatio),
     ("initial_assignment", .ofText? c.initialAssignment),
     ("initial_model", .ofText? c.initialModel)]

/-- The scoring section as a document. -/
def ScoringSettings.toJson (c : ScoringSettings) : Json :=
  .record
    [("context_fraction", .ofFloat c.contextFraction),
     ("uniquify_fraction", .ofFloat c.uniquifyFraction),
     ("new_weight", .ofFloat c.newWeight),
     ("unclustered_weight", .ofFloat c.unclusteredWeight),
     ("out_of_context_weight", .ofFloat c.outOfContextWeight),
     ("in_context_weight", .ofFloat c.inContextWeight)]

/-- A configuration as a document. -/
def Config.toJson (c : Config) : Json :=
  .record
    [("profile", .string c.profile),
     ("clustering", c.clustering.toJson),
     ("training", c.training.toJson),
     ("scoring", c.scoring.toJson)]

/-- The clustering section from a document. -/
def ClusteringSettings.ofJson? (j : Json) : Option ClusteringSettings := do
  match ← j.record? [("max_text_length", .refused), ("threshold_delta", .refused),
      ("threshold_factor", .refused), ("magic_words", .refused),
      ("whole_string_components", .refused), ("lock_timeout_ms", .refused),
      ("store_dir", .nullable)] with
  | [some length, some delta, some factor, some magic, some whole, some timeout, some dir] =>
    return {
      maxTextLength := ← length.nat?
      thresholdDelta := ← delta.float?
      thresholdFactor := ← factor.float?
      magicWords := ← magic.list? text?
      wholeStringComponents := ← whole.list? text?
      lockTimeoutMs := ← timeout.nat?
      storeDir := ← dir.option? text? }
  | _ => none

/-- The training section from a document. -/
def TrainingSettings.ofJson? (j : Json) : Option TrainingSettings := do
  match ← j.record? [("min_appearances", .refused), ("timeline", .refused),
      ("ticks_per_interval", .refused), ("num_clusters", .refused), ("num_runs", .refused),
      ("seed", .refused), ("alpha", .refused), ("max_trials", .refused),
      ("max_idle_trials", .refused), ("min_cluster_size", .refused),
      ("min_avg_info_ratio", .nullable), ("initial_assignment", .nullable),
      ("initial_model", .nullable)] with
  | [some appearances, some timeline, some ticks, some clusters, some runs, some seed, some alpha,
      some trials, some idle, some size, some ratio, some assignment, some model] =>
    return {
      minAppearances := ← appearances.nat?
      timeline := ← timeline.bool?
      ticksPerInterval := ← ticks.natUpTo? maxHalfWord
      numClusters := ← clusters.nat?
      numRuns := ← runs.nat?
      seed := (← seed.nat?).toUInt64
      alpha := ← alpha.float?
      maxTrials := ← trials.nat?
      maxIdleTrials := ← idle.nat?
      minClusterSize := ← size.nat?
      minAvgInfoRatio := ← ratio.option? float?
      initialAssignment := ← assignment.option? text?
      initialModel := ← model.option? text? }
  | _ => none

/-- The scoring section from a document. -/
def ScoringSettings.ofJson? (j : Json) : Option ScoringSettings := do
  match ← j.record? [("context_fraction", .refused), ("uniquify_fraction", .refused),
      ("new_weight", .refused), ("unclustered_weight", .refused),
      ("out_of_context_weight", .refused), ("in_context_weight", .refused)] with
  | [some context, some uniquify, some new, some unclustered, some outside, some inside] =>
    return {
      contextFraction := ← context.float?
      uniquifyFraction := ← uniquify.float?
      newWeight := ← new.float?
      unclusteredWeight := ← unclustered.float?
      outOfContextWeight := ← outside.float?
      inContextWeight := ← inside.float? }
  | _ => none

/-- A configuration from a document. -/
def Config.ofJson? (j : Json) : Option Config := do
  match ← j.record? [("profile", .refused), ("clustering", .refused), ("training", .refused),
      ("scoring", .refused)] with
  | [some profile, some clustering, some training, some scoring] =>
    return {
      profile := ← profile.text?
      clustering := ← ClusteringSettings.ofJson? clustering
      training := ← TrainingSettings.ofJson? training
      scoring := ← ScoringSettings.ofJson? scoring }
  | _ => none

end LogAnomaly
