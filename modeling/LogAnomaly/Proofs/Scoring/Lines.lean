import LogAnomaly.Command.Run
import LogAnomaly.Proofs.Ascending
import LogAnomaly.Proofs.Scoring.Cache
import LogAnomaly.Proofs.Training.Answers

/-!
# Lines of scores

* `Scorer.lines`: the lines of output for an interval;
* `score_lines`: those for a list of intervals are the lines for each of them alone, apart from what
  is remembered of an interval that has the same id;
* `score_lines_twins`: in that case the lines may differ.
-/

namespace LogAnomaly

/-- The lines of output for an interval. -/
def Scorer.lines (s : Scorer Float) (interval : Interval) : List String :=
  (s.scoreAll interval).1.map fun stats => stats.write ++ "\n"

/-- Looking at an interval beforehand does not change its lines. -/
theorem Scorer.lines_eq_prepare {s : Scorer Float} (h : s.mode = .context) (interval : Interval) :
    s.lines interval = (s.prepare interval).lines interval :=
  congrArg _ (scoreAll_congr h ((mode_prepare interval).trans h) (prepare_prepare interval).symm)

theorem ScoreCommand.outputLines_eq_flatMap {β : Type} {mode : ScoringMode} {model : Model}
    {config : ScoringSettings} {intervals : List Interval} {parts : List β}
    {stats : β → List (MessageScore Float)}
    (h : ((Scorer.ofConfig mode model config).scoreIntervals intervals).1 = parts.flatMap stats) :
    outputLines mode model config intervals =
      parts.flatMap fun part => (stats part).map fun stats => stats.write ++ "\n" := by
  rw [outputLines, h, List.map_flatMap]

/-- The lines of output for intervals. Where one message stands for others they are the lines of a
new scorer for each interval alone. Where every message counts on its own, an interval that comes
after one with the same id is not looked at again: its lines are those of a new scorer that has
looked at the first of them. So they are the lines for each interval alone if neighbours of the same
id have the same spiking clusters, and in particular if they have different ids. -/
theorem score_lines (model : Model) (config : ScoringSettings) (intervals : List Interval) :
    let uniquify := Scorer.ofConfig .uniquify model config
    let context := Scorer.ofConfig .context model config
    ScoreCommand.outputLines .uniquify model config intervals = intervals.flatMap uniquify.lines ∧
    ScoreCommand.outputLines .context model config intervals =
      (intervals.zip (leaders none intervals)).flatMap
        (fun (interval, leader) => (context.prepare leader).lines interval) ∧
    ((intervals.filter (·.messages ≠ [])).IsChain context.Agree →
      ScoreCommand.outputLines .context model config intervals =
        intervals.flatMap context.lines) := by
  intro uniquify context
  refine ⟨?_, ?_, fun hagree => ?_⟩
  · exact ScoreCommand.outputLines_eq_flatMap (Scorer.scoreIntervals_uniquify rfl intervals)
  · exact ScoreCommand.outputLines_eq_flatMap (Scorer.scoreIntervals_context rfl rfl intervals)
  · exact ScoreCommand.outputLines_eq_flatMap (Scorer.scoreIntervals_of_agree rfl rfl hagree)

/-! ## Two intervals -/

/-- A model with one cluster of two messages. -/
def pairModel : Model where
  stamp := zeroStamp
  intervals := 2
  assignments := ⟨[(1, 0), (2, 0)], by decide⟩
  seen := ⟨[1, 2], by decide⟩
  clusters := [⟨0, 2, 0.5, 0⟩]

/-- Both messages of the cluster occur. -/
def bothPresent : Interval := ⟨7, zeroStamp.trainedAt, [⟨1, 1, none⟩, ⟨2, 1, none⟩]⟩

/-- Only one of them occurs. -/
def onePresent (id : Nat) : Interval := ⟨id, zeroStamp.trainedAt, [⟨1, 1, none⟩]⟩

/-- With another id the second interval is scored as if it were alone. -/
theorem score_lines_apart :
    [bothPresent, onePresent 8].filter (·.messages ≠ []) = [bothPresent, onePresent 8] ∧
    ScoreCommand.outputLines .context pairModel {} [bothPresent, onePresent 8] =
      [bothPresent, onePresent 8].flatMap (Scorer.ofConfig .context pairModel {}).lines := by
  have hids : [bothPresent, onePresent 8].IsChain (Scorer.ofConfig .context pairModel {}).Agree :=
    .cons_cons (fun h => absurd h (by decide)) (.singleton _)
  exact ⟨rfl, (score_lines pairModel {} [bothPresent, onePresent 8]).2.2 hids⟩

theorem spikingClusters_bothPresent :
    spikingClusters pairModel (0.2 : Float) bothPresent = [true] := by
  unfold spikingClusters presentClusters
  rw [ascending_eq_self (by decide)]
  decide +kernel

theorem spikingClusters_onePresent (id : Nat) :
    spikingClusters pairModel (0.2 : Float) (onePresent id) = [false] := by
  have hmessages : (onePresent id).messages = [1] := rfl
  unfold spikingClusters presentClusters
  rw [hmessages, ascending_eq_self (List.pairwise_singleton _ _)]
  decide +kernel

/-- With the same id the second interval is scored by the cluster that spikes in the first one. -/
theorem score_lines_twins :
    ScoreCommand.outputLines .context pairModel {} [bothPresent, onePresent 7] ≠
      [bothPresent, onePresent 7].flatMap (Scorer.ofConfig .context pairModel {}).lines := by
  let scorer := Scorer.ofConfig .context pairModel {}
  let spiking (known : List Bool) : Scorer Float := { scorer with cache := .valid 7 known [false] }
  have hfirst : scorer.prepare bothPresent = spiking [true] := by
    rw [Scorer.prepare_of_invalid rfl, Scorer.freshCache]
    exact congrArg spiking spikingClusters_bothPresent
  have hsecond : scorer.prepare (onePresent 7) = spiking [false] := by
    rw [Scorer.prepare_of_invalid rfl, Scorer.freshCache]
    exact congrArg spiking (spikingClusters_onePresent 7)
  have hremembered : ScoreCommand.outputLines .context pairModel {} [bothPresent, onePresent 7] =
      (spiking [true]).lines bothPresent ++ (spiking [true]).lines (onePresent 7) := by
    rw [ScoreCommand.outputLines_eq_flatMap (Scorer.scoreIntervals_context rfl rfl _)]
    show (scorer.prepare bothPresent).lines bothPresent ++
      ((scorer.prepare bothPresent).lines (onePresent 7) ++ []) = _
    rw [hfirst, List.append_nil]
  have halone : [bothPresent, onePresent 7].flatMap scorer.lines =
      (spiking [true]).lines bothPresent ++ (spiking [false]).lines (onePresent 7) := by
    show scorer.lines bothPresent ++ (scorer.lines (onePresent 7) ++ []) = _
    rw [Scorer.lines_eq_prepare rfl bothPresent, Scorer.lines_eq_prepare rfl (onePresent 7), hfirst,
      hsecond, List.append_nil]
  have hlabels : (spiking [true]).lines (onePresent 7) ≠ (spiking [false]).lines (onePresent 7) := by
    decide +kernel
  rw [hremembered, halone]
  exact fun h => hlabels (List.append_cancel_left h)

end LogAnomaly
