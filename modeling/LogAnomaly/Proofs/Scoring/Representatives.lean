import LogAnomaly.Proofs.Scoring.Presence
import LogAnomaly.Proofs.Training.Coherent

/-!
# Representatives

Where one message stands for the others of a spiking cluster, it is the first of them, whatever was
scored before.

* `ScoringCall`, `Scorer.afterCalls`: a scorer after calls for messages and for whole intervals;
* `Scorer.scoreAll_afterCalls`: an interval is scored as if there had been no calls;
* `Scorer.scoreOne_standing`: one message stands for its cluster if no other does, and from then on
  none will;
* `Scorer.representative_scoreList`: so of many messages the first of each spiking cluster do;
* `standsFor_iff`: the representative of a cluster, if all members of clusters occurred in training;
* `uniquify_marks_first`: all of this together.
-/

namespace LogAnomaly

/-! ## Calls -/

/-- A call of a scorer. -/
inductive ScoringCall where
  /-- A message is scored in an interval, whether it is one of its messages or not. -/
  | message (interval : Interval) (id : Nat)
  /-- All messages of an interval are scored. -/
  | interval (interval : Interval)

namespace Scorer

section

variable {α : Type} [Div α] [NatCast α] [LE α] [DecidableLE α] (s : Scorer α)

/-- A scorer after a call. -/
def call (s : Scorer α) : ScoringCall → Scorer α
  | .message interval id => (s.scoreOne interval id).2
  | .interval interval => (s.scoreAll interval).2

/-- A scorer after one call after the other. -/
def afterCalls (s : Scorer α) (calls : List ScoringCall) : Scorer α := calls.foldl call s

theorem cleared_call (c : ScoringCall) : (s.call c).cleared = s.cleared := by
  cases c with
  | message interval id => exact s.cleared_scoreOne interval id
  | interval interval => exact s.cleared_scoreAll interval

theorem cleared_afterCalls (calls : List ScoringCall) :
    (s.afterCalls calls).cleared = s.cleared := by
  induction calls generalizing s with
  | nil => rfl
  | cons c calls ih => exact (ih (s.call c)).trans (s.cleared_call c)

variable {s}

/-- Where one message stands for others, what was scored before does not matter. -/
theorem scoreAll_afterCalls (h : s.mode = .uniquify) (calls : List ScoringCall)
    (interval : Interval) : (s.afterCalls calls).scoreAll interval = s.scoreAll interval := by
  have hcleared := s.cleared_afterCalls calls
  have hmode : (s.afterCalls calls).mode = .uniquify := (congrArg Scorer.mode hcleared).trans h
  rw [scoreAll_uniquify hmode, hcleared, ← scoreAll_uniquify h]

/-- A scorer may have looked at an interval before it scores messages of it. -/
theorem scoreList_prepare (interval : Interval) (ids : List Nat) :
    ((s.prepare interval).scoreList interval ids).1 = (s.scoreList interval ids).1 := by
  cases ids with
  | nil => rfl
  | cons id ids => simp only [scoreList, scoreOne, prepare_prepare]

end

end Scorer

/-! ## Spiking clusters -/

section SpikingCluster

variable {α : Type} [Div α] [NatCast α] [LE α] [DecidableLE α]

/-- The cluster that a message may stand for in an interval. -/
def Model.spikingCluster? (m : Model) (fraction : α) (interval : Interval) (id : Nat) :
    Option Nat :=
  let said := labelOf m (spikingClusters m fraction interval) id
  if said.1 = .inContext then said.2 else none

theorem Model.spikingCluster?_eq_some_iff {m : Model} {fraction : α} {interval : Interval}
    {id cluster : Nat} :
    m.spikingCluster? fraction interval id = some cluster ↔
      id ∈ m.seen.toList ∧ m.cluster? id = some cluster ∧
        m.SpikesIn fraction interval cluster := by
  rw [← knows_iff, ← spikingClusters_iff, spikingCluster?, labelOf]
  cases m.knows id with
  | false => simp
  | true =>
    cases m.cluster? id with
    | none => simp
    | some c => by_cases hc : c = cluster <;> simp [hc]

/-- A cluster is said of a message if the message is known and the cluster is its own. -/
theorem clusterId_labelOf_iff (m : Model) (spiking : List Bool) (id cluster : Nat) :
    (labelOf m spiking id).2 = some cluster ↔
      id ∈ m.seen.toList ∧ m.cluster? id = some cluster := by
  rw [← knows_iff, labelOf]
  cases m.knows id with
  | false => simp
  | true => cases m.cluster? id <;> simp

end SpikingCluster

/-! ## One message after the other -/

/-- Taking a cluster that a message stands for already, or that there is not, changes nothing. -/
theorem set_true_of_ne {represented : List Bool} {cluster : Nat}
    (h : represented[cluster]? ≠ some false) : represented.set cluster true = represented := by
  rcases Nat.lt_or_ge cluster represented.length with hlt | hge
  · have htaken : represented[cluster] = true := by simpa [hlt] using h
    simpa [htaken] using List.set_getElem_self hlt
  · exact List.set_eq_of_length_le hge

/-- The clusters that no message stands for are those from before, but the one that is taken. -/
theorem getElem?_elim_set_iff (represented : List Bool) (taken : Option Nat) (cluster : Nat) :
    (taken.elim represented fun c => represented.set c true)[cluster]? = some false ↔
      taken ≠ some cluster ∧ represented[cluster]? = some false := by
  cases taken with
  | none => simp
  | some c =>
    rw [Option.elim_some, List.getElem?_set']
    by_cases h : c = cluster <;> simp [h]

/-- A score that says whether the message stands for its cluster, whatever it said before. -/
def MessageScore.marked {α : Type} (r : MessageScore α) (representative : Bool) :
    MessageScore α :=
  { r with representative }

namespace Scorer

section

variable {α : Type} [Div α] [NatCast α] [LE α] [DecidableLE α] {s : Scorer α}

/-- What is said of a message where every message counts on its own. -/
def plainScore (s : Scorer α) (interval : Interval) (id : Nat) : MessageScore α :=
  ((fresh .context s.model s.fraction s.weights).scoreOne interval id).1

/-- A scorer that has looked at an interval, and that knows for which clusters a message stands. -/
def standing (s : Scorer α) (interval : Interval) (represented : List Bool) : Scorer α :=
  { s with cache := .valid interval.id (spikingClusters s.model s.fraction interval) represented }

variable {interval : Interval}

theorem standFor_standing (represented : List Bool) (cluster : Nat) :
    (s.standing interval represented).standFor cluster =
      (decide (represented[cluster]? = some false),
        s.standing interval (represented.set cluster true)) := by
  unfold standFor standing
  dsimp only
  split
  · rename_i hopen
    rw [decide_eq_true hopen]
  · rename_i htaken
    rw [decide_eq_false htaken, set_true_of_ne htaken]

theorem representation_standing (h : s.mode = .uniquify) (represented : List Bool)
    (label : ContextLabel) (cluster : Option Nat) :
    (s.standing interval represented).representation label cluster =
      let spiking := if label = .inContext then cluster else none
      (spiking.any fun c => represented[c]? = some false,
        s.standing interval (spiking.elim represented fun c => represented.set c true)) := by
  have hmode : (s.standing interval represented).mode = .uniquify := h
  unfold representation
  rw [hmode]
  cases label with
  | inContext =>
    cases cluster with
    | none => rfl
    | some c => exact standFor_standing represented c
  | new | unclustered | outOfContext => rfl

/-- A message stands for its spiking cluster if no other one does, and from then on one does. -/
theorem scoreOne_standing (h : s.mode = .uniquify) (represented : List Bool) (id : Nat) :
    (s.standing interval represented).scoreOne interval id =
      let spiking := s.model.spikingCluster? s.fraction interval id
      ((s.plainScore interval id).marked (spiking.any fun c => represented[c]? = some false),
        s.standing interval (spiking.elim represented fun c => represented.set c true)) := by
  have hlook : (s.standing interval represented).prepare interval =
      s.standing interval represented := if_pos (beq_self_eq_true interval.id)
  unfold scoreOne
  rw [hlook]
  dsimp only
  rw [representation_standing h]
  rfl

theorem scoreList_standing_cons (h : s.mode = .uniquify) (represented : List Bool) (id : Nat)
    (ids : List Nat) :
    ((s.standing interval represented).scoreList interval (id :: ids)).1 =
      let spiking := s.model.spikingCluster? s.fraction interval id
      (s.plainScore interval id).marked (spiking.any fun c => represented[c]? = some false) ::
        (scoreList interval ids
          (s.standing interval (spiking.elim represented fun c => represented.set c true))).1 := by
  rw [scoreList, scoreOne_standing h]

/-- Messages are said to be what they would be if each of them counted on its own. -/
theorem map_marked_scoreList (h : s.mode = .uniquify) (represented : List Bool)
    (ids : List Nat) :
    ((s.standing interval represented).scoreList interval ids).1.map (·.marked false) =
      ids.map (s.plainScore interval) := by
  induction ids generalizing represented with
  | nil => rfl
  | cons id ids ih =>
    rw [scoreList_standing_cons h, List.map_cons, ih, List.map_cons]
    rfl

/-- A message stands for its spiking cluster if no message did before and no earlier one could. -/
theorem representative_scoreList (h : s.mode = .uniquify) (represented : List Bool)
    (ids : List Nat) {place : Nat} {r : MessageScore α}
    (hr : ((s.standing interval represented).scoreList interval ids).1[place]? = some r) :
    let spikingAt (place : Nat) := ids[place]?.bind (s.model.spikingCluster? s.fraction interval)
    r.representative = true ↔ ∃ c, spikingAt place = some c ∧ represented[c]? = some false ∧
      ∀ earlier < place, spikingAt earlier ≠ some c := by
  induction ids generalizing represented place with
  | nil => cases hr
  | cons id ids ih =>
    rw [scoreList_standing_cons h] at hr
    cases place with
    | zero =>
      obtain rfl := Option.some.inj hr
      simp [MessageScore.marked, Option.any_eq_true]
    | succ place =>
      -- what the first message takes is no longer there for the others
      refine (ih _ hr).trans (exists_congr fun c => and_congr_right fun _ => ?_)
      rw [getElem?_elim_set_iff, Nat.forall_lt_succ_left, and_assoc, and_left_comm]
      rfl

end

end Scorer

/-! ## Representatives of clusters -/

/-- At a place of an interval there is a member of a cluster. -/
def Model.MemberAt (m : Model) (interval : Interval) (cluster place : Nat) : Prop :=
  ∃ id, interval.messages[place]? = some id ∧ m.cluster? id = some cluster

/-- At a place there is the first member of a cluster. -/
def Model.FirstMember (m : Model) (interval : Interval) (cluster place : Nat) : Prop :=
  m.MemberAt interval cluster place ∧ ∀ earlier < place, ¬ m.MemberAt interval cluster earlier

/-- All messages that have a cluster occurred in training. -/
def Model.KnowsMembers (m : Model) : Prop := ∀ id cluster, m.cluster? id = some cluster → m.knows id

/-- The message at a place stands for a cluster. -/
def StandsFor {α : Type} (stats : List (MessageScore α)) (cluster place : Nat) : Prop :=
  ∃ r, stats[place]? = some r ∧ r.clusterId = some cluster ∧ r.representative = true

theorem Model.FirstMember.unique {m : Model} {interval : Interval} {cluster place other : Nat}
    (h : m.FirstMember interval cluster place) (hother : m.FirstMember interval cluster other) :
    other = place := by
  rcases Nat.lt_trichotomy other place with hlt | heq | hlt
  · exact absurd hother.1 (h.2 other hlt)
  · exact heq
  · exact absurd h.1 (hother.2 place hlt)

section Stats

variable {α : Type} [Div α] [NatCast α] [LE α] [DecidableLE α] {model : Model} {fraction : α}
  {weights : AnomalyWeights α} {interval : Interval}

omit [DecidableLE α] in
/-- A cluster that spikes has a first member. -/
theorem Model.SpikesIn.exists_firstMember {cluster : Nat}
    (h : model.SpikesIn fraction interval cluster) :
    ∃ place, model.FirstMember interval cluster place := by
  obtain ⟨_, -, -, htwo, -⟩ := h
  obtain ⟨id, hid⟩ := Finset.card_pos.1 (Nat.zero_lt_of_lt htwo)
  obtain ⟨hpresent, hcluster⟩ := Finset.mem_filter.1 hid
  obtain ⟨place, hplace⟩ := List.getElem?_of_mem (List.mem_toFinset.1 hpresent)
  have hmember : ∃ place, model.MemberAt interval cluster place := ⟨place, id, hplace, hcluster⟩
  classical
  exact ⟨Nat.find hmember, Nat.find_spec hmember, fun _ => Nat.find_min hmember⟩

/-- The spiking cluster of the message at a place of an interval. -/
def Model.spikingAt? (m : Model) (fraction : α) (interval : Interval) (place : Nat) : Option Nat :=
  interval.messages[place]?.bind (m.spikingCluster? fraction interval)

theorem Model.spikingAt?_eq_some_iff {cluster place : Nat} :
    model.spikingAt? fraction interval place = some cluster ↔
      ∃ id, interval.messages[place]? = some id ∧ id ∈ model.seen.toList ∧
        model.cluster? id = some cluster ∧ model.SpikesIn fraction interval cluster := by
  simp only [spikingAt?, Option.bind_eq_some_iff, spikingCluster?_eq_some_iff]

theorem Model.spikesIn_of_spikingAt? {cluster place : Nat}
    (h : model.spikingAt? fraction interval place = some cluster) :
    model.SpikesIn fraction interval cluster := by
  obtain ⟨_, -, -, -, hspikes⟩ := spikingAt?_eq_some_iff.1 h
  exact hspikes

/-- Where all members of clusters occurred in training, the members of spiking clusters are those
that are in context. -/
theorem Model.KnowsMembers.spikingAt?_iff (h : model.KnowsMembers) {cluster place : Nat} :
    model.spikingAt? fraction interval place = some cluster ↔
      model.SpikesIn fraction interval cluster ∧ model.MemberAt interval cluster place := by
  rw [spikingAt?_eq_some_iff]
  constructor
  · rintro ⟨id, hid, -, hcluster, hspikes⟩
    exact ⟨hspikes, id, hid, hcluster⟩
  · rintro ⟨hspikes, id, hid, hcluster⟩
    have hseen := (knows_iff model id).1 (h id cluster hcluster)
    exact ⟨id, hid, hseen, hcluster, hspikes⟩

/-- What a new scorer says of an interval where one message stands for others. -/
def uniquifyScores (model : Model) (fraction : α) (weights : AnomalyWeights α)
    (interval : Interval) : List (MessageScore α) :=
  ((Scorer.fresh .uniquify model fraction weights).scoreAll interval).1

theorem uniquifyScores_eq (model : Model) (fraction : α) (weights : AnomalyWeights α)
    (interval : Interval) :
    uniquifyScores model fraction weights interval =
      (((Scorer.fresh .uniquify model fraction weights).standing interval
        (model.clusters.map fun _ => false)).scoreList interval interval.messages).1 := by
  have hall : (Scorer.fresh .uniquify model fraction weights).scoreAll interval =
      (Scorer.fresh .uniquify model fraction weights).scoreList interval interval.messages := rfl
  rw [uniquifyScores, hall, ← Scorer.scoreList_prepare, Scorer.prepare_of_invalid rfl]
  rfl

/-- Apart from who stands for whom, the scores are those where every message counts on its own. -/
theorem map_marked_uniquifyScores (model : Model) (fraction : α) (weights : AnomalyWeights α)
    (interval : Interval) :
    (uniquifyScores model fraction weights interval).map (·.marked false) =
      ((Scorer.fresh .context model fraction weights).scoreAll interval).1 := by
  have hmode : (Scorer.fresh .context model fraction weights).mode = .context := rfl
  rw [uniquifyScores_eq, Scorer.map_marked_scoreList rfl, Scorer.scoreAll_context hmode]
  refine List.map_congr_left fun id _ => ?_
  rw [Scorer.plainScore, Scorer.scoreOne_context rfl]
  rfl

/-- There is a score at a place just if there is a message, and it is that of the message. -/
theorem getElem?_uniquifyScores (model : Model) (fraction : α) (weights : AnomalyWeights α)
    (interval : Interval) (place : Nat) :
    ((uniquifyScores model fraction weights interval)[place]?).map (·.marked false) =
      (interval.messages[place]?).map
        ((Scorer.fresh .uniquify model fraction weights).plainScore interval) := by
  rw [← List.getElem?_map, uniquifyScores_eq, Scorer.map_marked_scoreList rfl, List.getElem?_map]

section Place

variable {place : Nat} {r : MessageScore α}
  (hr : (uniquifyScores model fraction weights interval)[place]? = some r)
include hr

theorem exists_plainScore_eq :
    ∃ id, interval.messages[place]? = some id ∧
      (Scorer.fresh .uniquify model fraction weights).plainScore interval id = r.marked false := by
  have hmap := getElem?_uniquifyScores model fraction weights interval place
  rw [hr, Option.map_some] at hmap
  exact Option.map_eq_some_iff.1 hmap.symm

/-- The spiking cluster at a place is the one that is said to be in context. -/
theorem spikingAt?_eq_some_iff_label (cluster : Nat) :
    model.spikingAt? fraction interval place = some cluster ↔
      r.label = .inContext ∧ r.clusterId = some cluster := by
  obtain ⟨id, hid, hplain⟩ := exists_plainScore_eq hr
  have hlabel : (labelOf model (spikingClusters model fraction interval) id).1 = r.label :=
    congrArg MessageScore.label hplain
  have hcluster : (labelOf model (spikingClusters model fraction interval) id).2 = r.clusterId :=
    congrArg MessageScore.clusterId hplain
  rw [Model.spikingAt?, hid, Option.bind_some, Model.spikingCluster?, hlabel, hcluster]
  simp

/-- A message of a spiking cluster is in context. -/
theorem spikingAt?_of_clusterId {cluster : Nat} (hcluster : r.clusterId = some cluster)
    (hspikes : model.SpikesIn fraction interval cluster) :
    model.spikingAt? fraction interval place = some cluster := by
  obtain ⟨id, hid, hplain⟩ := exists_plainScore_eq hr
  have hown : (labelOf model (spikingClusters model fraction interval) id).2 = some cluster :=
    (congrArg MessageScore.clusterId hplain).trans hcluster
  obtain ⟨hseen, hown⟩ := (clusterId_labelOf_iff ..).1 hown
  exact Model.spikingAt?_eq_some_iff.2 ⟨id, hid, hseen, hown, hspikes⟩

/-- A message that is in context has a cluster that spikes. -/
theorem exists_spikingAt?_of_inContext (hlabel : r.label = .inContext) :
    ∃ cluster, model.spikingAt? fraction interval place = some cluster := by
  obtain ⟨id, hid, hplain⟩ := exists_plainScore_eq hr
  have hcontext : contextLabel model fraction weights interval id = .inContext :=
    (congrArg MessageScore.label hplain).trans hlabel
  obtain ⟨hseen, cluster, hown, hspikes⟩ := (contextLabel_eq_inContext_iff ..).1 hcontext
  exact ⟨cluster, Model.spikingAt?_eq_some_iff.2 ⟨id, hid, hseen, hown, hspikes⟩⟩

end Place

theorem exists_score_of_spikingAt? (weights : AnomalyWeights α) {cluster place : Nat}
    (h : model.spikingAt? fraction interval place = some cluster) :
    ∃ r, (uniquifyScores model fraction weights interval)[place]? = some r ∧
      r.clusterId = some cluster := by
  obtain ⟨id, hid, -⟩ := Model.spikingAt?_eq_some_iff.1 h
  have hmap := getElem?_uniquifyScores model fraction weights interval place
  rw [hid, Option.map_some] at hmap
  obtain ⟨r, hr, -⟩ := Option.map_eq_some_iff.1 hmap
  exact ⟨r, hr, ((spikingAt?_eq_some_iff_label hr cluster).1 h).2⟩

/-- A message stands for its cluster if that spikes and has no earlier message. -/
theorem representative_iff_spikingAt? {place : Nat} {r : MessageScore α}
    (hr : (uniquifyScores model fraction weights interval)[place]? = some r) :
    r.representative = true ↔ ∃ cluster, model.spikingAt? fraction interval place = some cluster ∧
      ∀ earlier < place, model.spikingAt? fraction interval earlier ≠ some cluster := by
  rw [uniquifyScores_eq] at hr
  refine (Scorer.representative_scoreList rfl _ _ hr).trans (exists_congr fun cluster =>
    and_congr_right fun hspiking => ?_)
  have hlt : cluster < model.clusters.length := (Model.spikesIn_of_spikingAt? hspiking).lt_length
  rw [List.getElem?_map, List.getElem?_eq_getElem hlt]
  exact and_iff_right rfl

/-- A message stands for its cluster if it is in context and no earlier one is of that cluster. -/
theorem representative_iff_label {place : Nat} {r : MessageScore α}
    (hr : (uniquifyScores model fraction weights interval)[place]? = some r) :
    r.representative = true ↔ r.label = .inContext ∧
      ∀ earlier < place, ∀ r',
        (uniquifyScores model fraction weights interval)[earlier]? = some r' →
          r'.clusterId ≠ r.clusterId := by
  rw [representative_iff_spikingAt? hr]
  constructor
  · rintro ⟨cluster, hspiking, hfirst⟩
    obtain ⟨hlabel, hcluster⟩ := (spikingAt?_eq_some_iff_label hr cluster).1 hspiking
    refine ⟨hlabel, fun earlier hlt r' hr' hsame => hfirst earlier hlt ?_⟩
    exact spikingAt?_of_clusterId hr' (hsame.trans hcluster) (Model.spikesIn_of_spikingAt? hspiking)
  · rintro ⟨hlabel, hfirst⟩
    obtain ⟨cluster, hspiking⟩ := exists_spikingAt?_of_inContext hr hlabel
    refine ⟨cluster, hspiking, fun earlier hlt hearlier => ?_⟩
    have hcluster := ((spikingAt?_eq_some_iff_label hr cluster).1 hspiking).2
    obtain ⟨r', hr', hcluster'⟩ := exists_score_of_spikingAt? weights hearlier
    exact hfirst earlier hlt r' hr' (hcluster'.trans hcluster.symm)

/-- Where all members of clusters occurred in training, the first member of a spiking cluster stands
for it, and no other message stands for any cluster. -/
theorem standsFor_iff (h : model.KnowsMembers) {cluster place : Nat} :
    StandsFor (uniquifyScores model fraction weights interval) cluster place ↔
      model.SpikesIn fraction interval cluster ∧ model.FirstMember interval cluster place := by
  constructor
  · rintro ⟨r, hr, hcluster, hstands⟩
    obtain ⟨c, hspiking, hfirst⟩ := (representative_iff_spikingAt? hr).1 hstands
    have hc := ((spikingAt?_eq_some_iff_label hr c).1 hspiking).2
    obtain rfl := Option.some.inj (hcluster.symm.trans hc)
    obtain ⟨hspikes, hmember⟩ := h.spikingAt?_iff.1 hspiking
    exact ⟨hspikes, hmember, fun earlier hlt hearlier =>
      hfirst earlier hlt (h.spikingAt?_iff.2 ⟨hspikes, hearlier⟩)⟩
  · rintro ⟨hspikes, hmember, hfirst⟩
    have hspiking := h.spikingAt?_iff.2 ⟨hspikes, hmember⟩
    obtain ⟨r, hr, hcluster⟩ := exists_score_of_spikingAt? weights hspiking
    exact ⟨r, hr, hcluster,
      (representative_iff_spikingAt? hr).2 ⟨cluster, hspiking, fun earlier hlt hearlier =>
        hfirst earlier hlt (h.spikingAt?_iff.1 hearlier).2⟩⟩

end Stats

theorem Model.Coherent.knowsMembers {config : TrainingSettings} {intervals : List Interval}
    {model : Model} (h : model.Coherent config intervals) : model.KnowsMembers :=
  fun id cluster hcluster => (h.of_cluster id cluster hcluster).1

/-- Where one message stands for others, the scores of an interval are, whatever calls there were
before, those of a new scorer for which every message counts on its own, apart from who stands for
whom. A message stands for its cluster just if it is in context and no earlier one of the interval
is of the same cluster. So if all members of clusters occurred in training, each cluster that spikes
has one representative, its first message, and the others have none. That is so for every model that
is trained. -/
theorem uniquify_marks_first {α : Type} [Div α] [NatCast α] [LE α] [DecidableLE α] (model : Model)
    (fraction : α) (weights : AnomalyWeights α) (calls : List ScoringCall) (interval : Interval) :
    let scorer := (Scorer.fresh .uniquify model fraction weights).afterCalls calls
    let stats := (scorer.scoreAll interval).1
    stats.map (·.marked false) =
      ((Scorer.fresh .context model fraction weights).scoreAll interval).1 ∧
    (∀ (place : Nat) (r : MessageScore α), stats[place]? = some r →
      (r.representative = true ↔ r.label = .inContext ∧
        ∀ earlier < place, ∀ r' : MessageScore α, stats[earlier]? = some r' →
          r'.clusterId ≠ r.clusterId)) ∧
    (model.KnowsMembers → ∀ cluster,
      (model.SpikesIn fraction interval cluster →
        ∃ place, model.FirstMember interval cluster place ∧
          ∀ other, StandsFor stats cluster other ↔ other = place) ∧
      (¬ model.SpikesIn fraction interval cluster → ∀ place, ¬ StandsFor stats cluster place)) ∧
    ∀ (t : Trainer) stamp intervals initial result,
      t.train stamp intervals initial = .ok result → result.model.KnowsMembers := by
  intro scorer stats
  have hstats : stats = uniquifyScores model fraction weights interval :=
    congrArg Prod.fst (Scorer.scoreAll_afterCalls rfl calls interval)
  rw [hstats]
  refine ⟨map_marked_uniquifyScores model fraction weights interval,
    fun place r hr => representative_iff_label hr, fun hknows cluster => ⟨?_, ?_⟩,
    fun t stamp intervals initial result h => (t.coherent_of_train h).knowsMembers⟩
  · intro hspikes
    obtain ⟨place, hfirst⟩ := hspikes.exists_firstMember
    refine ⟨place, hfirst, fun other => (standsFor_iff hknows).trans ⟨?_, ?_⟩⟩
    · rintro ⟨-, hother⟩
      exact hfirst.unique hother
    · rintro rfl
      exact ⟨hspikes, hfirst⟩
  · intro hquiet place hstands
    exact hquiet ((standsFor_iff hknows).1 hstands).1

/-- After calls for the same interval and for another one of its id, the first of its two messages
stands for the cluster. -/
theorem uniquify_marks_first_worn :
    let calls := [.message manyMessages 2, .interval { fewMessages with id := 2 }]
    let scorer := Scorer.fresh .uniquify wornModel (2 / 3 : ℚ) ⟨1, 1 / 2, 1 / 4, 0⟩
    let stats := ((scorer.afterCalls calls).scoreAll manyMessages).1
    wornModel.KnowsMembers ∧ wornModel.SpikesIn (2 / 3 : ℚ) manyMessages 0 ∧
      (∀ place, StandsFor stats 0 place ↔ place = 1) ∧ (∀ place, ¬ StandsFor stats 7 place) ∧
      ∃ result, usualTrainer.train zeroStamp trioIntervals .none = .ok result ∧
        result.model.KnowsMembers := by
  intro calls scorer stats
  obtain ⟨-, -, hmarks, htrained⟩ :=
    uniquify_marks_first wornModel (2 / 3 : ℚ) ⟨1, 1 / 2, 1 / 4, 0⟩ calls manyMessages
  have hknows : wornModel.KnowsMembers := by
    intro id cluster h
    have hentry : (id, cluster) ∈ wornModel.assignments.toList := IdMap.get?_eq_some_iff.1 h
    have hall : ∀ entry ∈ wornModel.assignments.toList, wornModel.knows entry.1 := by decide
    exact hall _ hentry
  have hspikes : wornModel.SpikesIn (2 / 3 : ℚ) manyMessages 0 :=
    spikesIn_worn.mono le_rfl (by decide)
  have hmissing : ¬ wornModel.SpikesIn (2 / 3 : ℚ) manyMessages 7 := fun h =>
    absurd h.lt_length (by decide)
  have hfirst : wornModel.FirstMember manyMessages 0 1 := by
    refine ⟨⟨1, rfl, rfl⟩, ?_⟩
    rintro earlier hlt ⟨id, hid, hcluster⟩
    obtain rfl := Nat.lt_one_iff.1 hlt
    obtain rfl := Option.some.inj hid
    exact absurd hcluster (by decide)
  obtain ⟨place, hplace, hstands⟩ := (hmarks hknows 0).1 hspikes
  obtain rfl := hfirst.unique hplace
  obtain ⟨result, hresult⟩ := usualTrainer.exists_train_eq_ok zeroStamp trioIntervals .none nofun
  exact ⟨hknows, hspikes, hstands, (hmarks hknows 7).2 hmissing, result, hresult,
    htrained _ _ _ _ _ hresult⟩

end LogAnomaly
