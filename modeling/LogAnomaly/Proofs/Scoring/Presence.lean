import LogAnomaly.Proofs.Ascending
import LogAnomaly.Proofs.Scoring.Cache
import LogAnomaly.Proofs.Scoring.Tally
import LogAnomaly.Proofs.Training.Answers
import Mathlib.Algebra.Order.Field.Basic
import Mathlib.Tactic.NormNum

/-!
# Labels by presence

What is said of a message in an interval depends on nothing but which messages are present.

* `Scorer.fresh`, `contextLabel`: a scorer that has scored nothing, and what it says of a message;
* `Model.SpikesIn`: when a cluster spikes in an interval;
* `contextLabel_cases`: the four labels by what a model knows of a message and by whether its
  cluster spikes;
* `contextLabel_congr`: intervals with the same messages have the same labels;
* `Model.SpikesIn.mono`: more messages and a lower fraction let more clusters spike;
* `labels_by_presence`: all of this together.
-/

namespace LogAnomaly

/-! ## The labels of a new scorer -/

section Labels

variable {α : Type} [Div α] [NatCast α] [LE α] [DecidableLE α]

/-- A cluster spikes in an interval if the model has it, it has a size, at least two of its messages
are present, and their share reaches the fraction. -/
def Model.SpikesIn (m : Model) (fraction : α) (interval : Interval) (cluster : Nat) : Prop :=
  ∃ info, m.clusters[cluster]? = some info ∧ 0 < info.size ∧
    let count := (m.membersAmong interval.messages.toFinset cluster).card
    2 ≤ count ∧ fraction ≤ (count : α) / (info.size : α)

/-- A scorer that has scored nothing. -/
def Scorer.fresh (mode : ScoringMode) (model : Model) (fraction : α) (weights : AnomalyWeights α) :
    Scorer α where
  mode
  model
  fraction
  weights

/-- What a new scorer says of a message in an interval, where every message counts on its own. -/
def contextLabel (model : Model) (fraction : α) (weights : AnomalyWeights α) (interval : Interval)
    (id : Nat) : ContextLabel :=
  ((Scorer.fresh .context model fraction weights).scoreOne interval id).1.label

omit [DecidableLE α] in
theorem Model.SpikesIn.lt_length {m : Model} {fraction : α} {interval : Interval} {cluster : Nat}
    (h : m.SpikesIn fraction interval cluster) : cluster < m.clusters.length := by
  obtain ⟨_, hinfo, -⟩ := h
  exact (List.getElem?_eq_some_iff.1 hinfo).1

variable (model : Model) (fraction : α) (weights : AnomalyWeights α) (interval : Interval)
  (id : Nat)

theorem contextLabel_eq :
    contextLabel model fraction weights interval id =
      (labelOf model (spikingClusters model fraction interval) id).1 := rfl

theorem spikingClusters_iff (cluster : Nat) :
    (spikingClusters model fraction interval)[cluster]?.getD false = true ↔
      model.SpikesIn fraction interval cluster := by
  rw [spikingClusters, List.getElem?_map, List.getElem?_zipIdx, Model.SpikesIn]
  cases model.clusters[cluster]? with
  | none => simp
  | some info => simp [spikes, count_presentClusters, and_comm, and_assoc, Nat.succ_le_iff]

theorem knows_iff : model.knows id = true ↔ id ∈ model.seen.toList := by
  simp [Model.knows, IdSet.contains]

/-- A message is new, or known and without a cluster, or its cluster decides. -/
theorem contextLabel_cases :
    let label := contextLabel model fraction weights interval id
    (id ∉ model.seen.toList ∧ label = .new) ∨
      (id ∈ model.seen.toList ∧ model.cluster? id = none ∧ label = .unclustered) ∨
      (id ∈ model.seen.toList ∧ ∃ cluster, model.cluster? id = some cluster ∧
        ((model.SpikesIn fraction interval cluster ∧ label = .inContext) ∨
          (¬ model.SpikesIn fraction interval cluster ∧ label = .outOfContext))) := by
  intro label
  have hlabel : label = (labelOf model (spikingClusters model fraction interval) id).1 := rfl
  unfold labelOf at hlabel
  split at hlabel
  · rename_i hknown
    have hseen := (knows_iff model id).1 hknown
    split at hlabel
    · rename_i hnone
      exact .inr (.inl ⟨hseen, hnone, hlabel⟩)
    · rename_i cluster hcluster
      refine .inr (.inr ⟨hseen, cluster, hcluster, ?_⟩)
      rw [← spikingClusters_iff]
      split at hlabel
      · rename_i hspikes
        exact .inl ⟨hspikes, hlabel⟩
      · rename_i hquiet
        exact .inr ⟨hquiet, hlabel⟩
  · rename_i hunknown
    exact .inl ⟨fun hseen => hunknown ((knows_iff model id).2 hseen), hlabel⟩

theorem contextLabel_eq_new_iff :
    contextLabel model fraction weights interval id = .new ↔ id ∉ model.seen.toList := by
  rcases contextLabel_cases model fraction weights interval id with
    ⟨hseen, h⟩ | ⟨hseen, -, h⟩ | ⟨hseen, _, -, ⟨-, h⟩ | ⟨-, h⟩⟩ <;> simp [h, hseen]

theorem contextLabel_eq_unclustered_iff :
    contextLabel model fraction weights interval id = .unclustered ↔
      id ∈ model.seen.toList ∧ model.cluster? id = none := by
  rcases contextLabel_cases model fraction weights interval id with
    ⟨hseen, h⟩ | ⟨hseen, hc, h⟩ | ⟨hseen, _, hc, ⟨-, h⟩ | ⟨-, h⟩⟩ <;> simp [*]

theorem contextLabel_eq_inContext_iff :
    contextLabel model fraction weights interval id = .inContext ↔
      id ∈ model.seen.toList ∧ ∃ cluster, model.cluster? id = some cluster ∧
        model.SpikesIn fraction interval cluster := by
  rcases contextLabel_cases model fraction weights interval id with
    ⟨hseen, h⟩ | ⟨hseen, hc, h⟩ | ⟨hseen, _, hc, ⟨hs, h⟩ | ⟨hs, h⟩⟩ <;> simp [*]

theorem contextLabel_eq_outOfContext_iff :
    contextLabel model fraction weights interval id = .outOfContext ↔
      id ∈ model.seen.toList ∧ ∃ cluster, model.cluster? id = some cluster ∧
        ¬ model.SpikesIn fraction interval cluster := by
  rcases contextLabel_cases model fraction weights interval id with
    ⟨hseen, h⟩ | ⟨hseen, hc, h⟩ | ⟨hseen, _, hc, ⟨hs, h⟩ | ⟨hs, h⟩⟩ <;> simp [*]

/-- The messages of an interval get the labels that each of them gets alone. -/
theorem map_label_scoreAll :
    ((Scorer.fresh .context model fraction weights).scoreAll interval).1.map (·.label) =
      interval.messages.map (contextLabel model fraction weights interval) := by
  have hmode : (Scorer.fresh .context model fraction weights).mode = .context := rfl
  rw [Scorer.scoreAll_context hmode, List.map_map]
  refine List.map_congr_left fun id _ => ?_
  rw [contextLabel, Scorer.scoreOne_context hmode]
  rfl

variable {interval}

/-- Intervals with the same messages have the same labels. -/
theorem contextLabel_congr {other : Interval}
    (h : ∀ id, id ∈ interval.messages ↔ id ∈ other.messages) :
    contextLabel model fraction weights interval id =
      contextLabel model fraction weights other id := by
  have hpresent : ascending interval.messages = ascending other.messages :=
    eq_of_mem_iff_mem (pairwise_ascending _) (pairwise_ascending _) fun id => by
      rw [mem_ascending, mem_ascending, h]
  rw [contextLabel_eq, contextLabel_eq, spikingClusters, spikingClusters, presentClusters,
    presentClusters, hpresent]

end Labels

/-! ## More messages, and a lower fraction -/

section Mono

variable {α : Type} [Field α] [LinearOrder α] [IsStrictOrderedRing α]

theorem Model.membersAmong_mono (m : Model) {present more : Finset Nat} (h : present ⊆ more)
    (cluster : Nat) : m.membersAmong present cluster ⊆ m.membersAmong more cluster :=
  Finset.filter_subset_filter _ h

/-- A cluster goes on to spike when more messages are present and when the fraction is lowered. -/
theorem Model.SpikesIn.mono {m : Model} {low high : α} {a b : Interval} {cluster : Nat}
    (h : m.SpikesIn high a cluster) (hfraction : low ≤ high)
    (hmessages : ∀ id ∈ a.messages, id ∈ b.messages) : m.SpikesIn low b cluster := by
  obtain ⟨info, hinfo, hsize, htwo, hshare⟩ := h
  have hsub : a.messages.toFinset ⊆ b.messages.toFinset := fun id hid =>
    List.mem_toFinset.2 (hmessages id (List.mem_toFinset.1 hid))
  have hcount := Finset.card_le_card (m.membersAmong_mono hsub cluster)
  refine ⟨info, hinfo, hsize, htwo.trans hcount, ?_⟩
  calc low ≤ high := hfraction
    _ ≤ ((m.membersAmong a.messages.toFinset cluster).card : α) / (info.size : α) := hshare
    _ ≤ ((m.membersAmong b.messages.toFinset cluster).card : α) / (info.size : α) :=
      div_le_div_of_nonneg_right (Nat.cast_le.2 hcount) (Nat.cast_nonneg _)

theorem contextLabel_inContext_mono (model : Model) (weights : AnomalyWeights α) {low high : α}
    {a b : Interval} (hfraction : low ≤ high) (hmessages : ∀ id ∈ a.messages, id ∈ b.messages)
    {id : Nat} (h : contextLabel model high weights a id = .inContext) :
    contextLabel model low weights b id = .inContext := by
  obtain ⟨hseen, cluster, hcluster, hspikes⟩ := (contextLabel_eq_inContext_iff ..).1 h
  exact (contextLabel_eq_inContext_iff ..).2
    ⟨hseen, cluster, hcluster, hspikes.mono hfraction hmessages⟩

end Mono

/-- A message is new if it did not occur in training, unclustered if it did and has no cluster, in
context if its cluster spikes, and out of context otherwise; which clusters spike can be counted
without looking for a place that is missing. So labels depend only on which messages are present,
not on the order, the number or the counts of their activities. In exact arithmetic a message that
is in context stays so when more messages are present, and when the fraction is lowered. -/
theorem labels_by_presence (model : Model) :
    (∀ {α : Type} [Div α] [NatCast α] [LE α] [DecidableLE α] (fraction : α)
        (weights : AnomalyWeights α),
      let label := contextLabel model fraction weights
      (∀ interval, countedSpikes? model fraction interval =
          some (spikingClusters model fraction interval) ∧
        ((Scorer.fresh .context model fraction weights).scoreAll interval).1.map (·.label) =
          interval.messages.map (label interval)) ∧
      (∀ interval id,
        (label interval id = .new ↔ id ∉ model.seen.toList) ∧
        (label interval id = .unclustered ↔
          id ∈ model.seen.toList ∧ model.cluster? id = none) ∧
        (label interval id = .inContext ↔ id ∈ model.seen.toList ∧
          ∃ cluster, model.cluster? id = some cluster ∧
            model.SpikesIn fraction interval cluster) ∧
        (label interval id = .outOfContext ↔ id ∈ model.seen.toList ∧
          ∃ cluster, model.cluster? id = some cluster ∧
            ¬ model.SpikesIn fraction interval cluster)) ∧
      ∀ a b : Interval, (∀ id, id ∈ a.messages ↔ id ∈ b.messages) → label a = label b) ∧
    ∀ {α : Type} [Field α] [LinearOrder α] [IsStrictOrderedRing α] (weights : AnomalyWeights α),
      let label (fraction : α) := contextLabel model fraction weights
      (∀ fraction (a b : Interval), (∀ id ∈ a.messages, id ∈ b.messages) → ∀ id,
        (label fraction a id = .inContext → label fraction b id = .inContext) ∧
        (label fraction a id = .new ↔ label fraction b id = .new) ∧
        (label fraction a id = .unclustered ↔ label fraction b id = .unclustered)) ∧
      ∀ low high, low ≤ high → ∀ interval id,
        label high interval id = .inContext → label low interval id = .inContext := by
  constructor
  · intro α _ _ _ _ fraction weights label
    refine ⟨fun interval => ⟨countedSpikes?_eq_some model fraction interval,
      map_label_scoreAll model fraction weights interval⟩, fun interval id => ?_, fun a b h => ?_⟩
    · exact ⟨contextLabel_eq_new_iff .., contextLabel_eq_unclustered_iff ..,
        contextLabel_eq_inContext_iff .., contextLabel_eq_outOfContext_iff ..⟩
    · exact funext fun id => contextLabel_congr model fraction weights id h
  · intro α _ _ _ weights label
    refine ⟨fun fraction a b hmessages id => ⟨?_, ?_, ?_⟩, fun low high hle interval id => ?_⟩
    · exact contextLabel_inContext_mono model weights (le_refl fraction) hmessages
    · rw [contextLabel_eq_new_iff, contextLabel_eq_new_iff]
    · rw [contextLabel_eq_unclustered_iff, contextLabel_eq_unclustered_iff]
    · exact contextLabel_inContext_mono model weights hle fun _ h => h

/-- A model that no training leaves: the cluster of a message is missing, and a size is wrong. -/
def wornModel : Model where
  stamp := zeroStamp
  intervals := 1
  assignments := ⟨[(1, 0), (2, 0), (3, 7)], by decide⟩
  seen := ⟨[1, 2, 3, 4], by decide⟩
  clusters := [⟨0, 3, 0.5, 0⟩]

/-- Two of the messages, and all of them with another one. -/
def fewMessages : Interval := ⟨1, zeroStamp.trainedAt, [⟨2, 5, none⟩, ⟨1, 1, none⟩]⟩

def manyMessages : Interval :=
  ⟨2, zeroStamp.trainedAt, [3, 1, 9, 1, 4, 2].map fun id => ⟨id, 1, none⟩⟩

theorem spikesIn_worn : wornModel.SpikesIn (2 / 3 : ℚ) fewMessages 0 := by
  have hcount : (wornModel.membersAmong fewMessages.messages.toFinset 0).card = 2 := by decide
  exact ⟨⟨0, 3, 0.5, 0⟩, rfl, by decide, by rw [hcount], by rw [hcount]; norm_num⟩

theorem labels_by_presence_worn :
    let label (fraction : ℚ) := contextLabel wornModel fraction ⟨1, 1 / 2, 1 / 4, 0⟩
    (∀ id ∈ fewMessages.messages, id ∈ manyMessages.messages) ∧ (1 / 2 : ℚ) ≤ 2 / 3 ∧
      label (2 / 3) fewMessages 1 = .inContext ∧ label (2 / 3) manyMessages 1 = .inContext ∧
      label (1 / 2) fewMessages 1 = .inContext ∧ label (2 / 3) manyMessages 3 = .outOfContext ∧
      label (2 / 3) manyMessages 4 = .unclustered ∧ label (2 / 3) manyMessages 9 = .new := by
  intro label
  obtain ⟨hall, hexact⟩ := labels_by_presence wornModel
  obtain ⟨-, hiff, -⟩ := hall (2 / 3 : ℚ) ⟨1, 1 / 2, 1 / 4, 0⟩
  obtain ⟨hmore, hlower⟩ := hexact (⟨1, 1 / 2, 1 / 4, 0⟩ : AnomalyWeights ℚ)
  have hsub : ∀ id ∈ fewMessages.messages, id ∈ manyMessages.messages := by decide
  have hle : (1 / 2 : ℚ) ≤ 2 / 3 := by norm_num
  have hmissing : ¬ wornModel.SpikesIn (2 / 3 : ℚ) manyMessages 7 := fun h =>
    absurd h.lt_length (by decide)
  have hfew : label (2 / 3) fewMessages 1 = .inContext :=
    (hiff fewMessages 1).2.2.1.2 ⟨by decide, 0, rfl, spikesIn_worn⟩
  exact ⟨hsub, hle, hfew, (hmore (2 / 3) _ _ hsub 1).1 hfew, hlower _ _ hle fewMessages 1 hfew,
    (hiff manyMessages 3).2.2.2.2 ⟨by decide, 7, rfl, hmissing⟩,
    (hiff manyMessages 4).2.1.2 (by decide), (hiff manyMessages 9).1.2 (by decide)⟩

end LogAnomaly
