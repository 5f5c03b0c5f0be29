import LogAnomaly.Scoring.Scorer
import Mathlib.Data.List.Basic
import Mathlib.Data.List.Chain

/-!
# What a scorer remembers

* `Scorer.cleared`: a scorer without its cache, as every scorer begins;
* `Scorer.scoreIntervals_uniquify`: where one message stands for others, nothing is remembered;
* `leaders`: for each interval the one whose clusters its messages are labelled by, the first of
  those that come one after another with its id;
* `Scorer.scoreIntervals_context`: where every message counts on its own, that is all that is
  remembered;
* `Scorer.scoreIntervals_of_agree`: so nothing is remembered if neighbours of one id agree.
-/

namespace LogAnomaly

namespace Scorer

section

variable {α : Type} (s : Scorer α)

/-- A scorer without its cache. -/
def cleared : Scorer α := { s with cache := .invalid }

/-! ## One stands for others -/

theorem cleared_representation (label : ContextLabel) (cluster : Option Nat) :
    (s.representation label cluster).2.cleared = s.cleared := by
  unfold representation standFor
  split
  · split
    · rfl
    · split <;> rfl
  · rfl

variable [Div α] [NatCast α] [LE α] [DecidableLE α]

theorem cleared_prepare (interval : Interval) : (s.prepare interval).cleared = s.cleared := by
  unfold prepare
  split <;> rfl

theorem cleared_scoreOne (interval : Interval) (messageId : Nat) :
    (s.scoreOne interval messageId).2.cleared = s.cleared :=
  (cleared_representation (s.prepare interval) _ _).trans (s.cleared_prepare interval)

theorem cleared_scoreList (interval : Interval) (ids : List Nat) :
    (s.scoreList interval ids).2.cleared = s.cleared := by
  induction ids generalizing s with
  | nil => rfl
  | cons id ids ih => exact (ih _).trans (s.cleared_scoreOne interval id)

theorem cleared_scoreAll (interval : Interval) :
    (s.scoreAll interval).2.cleared = s.cleared := by
  unfold scoreAll
  refine (cleared_scoreList _ interval interval.messages).trans ?_
  split <;> rfl

theorem scoreIntervals_cons (interval : Interval) (intervals : List Interval) :
    (s.scoreIntervals (interval :: intervals)).1 =
      (s.scoreAll interval).1 ++ ((s.scoreAll interval).2.scoreIntervals intervals).1 :=
  rfl

variable {s}

/-- A cache that is thrown away before it is used does not matter. -/
theorem scoreAll_uniquify (h : s.mode = .uniquify) (interval : Interval) :
    s.scoreAll interval = s.cleared.scoreAll interval := by
  simp only [scoreAll, cleared, h]

theorem scoreIntervals_uniquify (h : s.mode = .uniquify) (intervals : List Interval) :
    (s.scoreIntervals intervals).1 =
      intervals.flatMap fun interval => (s.cleared.scoreAll interval).1 := by
  induction intervals generalizing s with
  | nil => rfl
  | cons interval intervals ih =>
    have hcleared := s.cleared_scoreAll interval
    have hmode : (s.scoreAll interval).2.mode = .uniquify :=
      (congrArg Scorer.mode hcleared).trans h
    rw [scoreIntervals_cons, List.flatMap_cons, ih hmode, hcleared, scoreAll_uniquify h]

end

end Scorer

/-! ## Each counts on its own -/

/-- The interval whose clusters label the messages of another one: the interval that was looked at
last, if it has the same id. -/
def leader (held : Option Interval) (interval : Interval) : Interval :=
  match held with
  | none => interval
  | some last => if last.id = interval.id then last else interval

/-- For each interval the one whose clusters label its messages. An interval without messages is
never looked at. -/
def leaders (held : Option Interval) : List Interval → List Interval
  | [] => []
  | interval :: rest =>
    leader held interval ::
      leaders (if interval.messages = [] then held else some (leader held interval)) rest

theorem id_leader (held : Option Interval) (interval : Interval) :
    (leader held interval).id = interval.id := by
  unfold leader
  split
  · rfl
  · split
    · assumption
    · rfl

namespace Scorer

variable {α : Type} [Div α] [NatCast α] [LE α] [DecidableLE α] {s : Scorer α}

/-- A scorer that looked at an interval last. -/
def holding (held : Option Interval) (s : Scorer α) : Scorer α :=
  match held with
  | none => s
  | some last => s.prepare last

theorem mode_prepare (interval : Interval) : (s.prepare interval).mode = s.mode := by
  unfold prepare
  split <;> rfl

theorem mode_holding (held : Option Interval) : (s.holding held).mode = s.mode := by
  cases held with
  | none => rfl
  | some last => exact mode_prepare last

/-- A scorer without a cache takes in what an interval says. -/
theorem prepare_of_invalid (h : s.cache = .invalid) (interval : Interval) :
    s.prepare interval = { s with cache := s.freshCache interval } :=
  if_neg (by rw [h]; exact Bool.false_ne_true)

/-- An interval of the id that was looked at last is not looked at. -/
theorem prepare_prepare_of_id (h : s.cache = .invalid) {last interval : Interval}
    (hid : last.id = interval.id) : (s.prepare last).prepare interval = s.prepare last := by
  rw [prepare_of_invalid h]
  exact if_pos (beq_iff_eq.2 hid)

theorem prepare_holding (h : s.cache = .invalid) (held : Option Interval) (interval : Interval) :
    (s.holding held).prepare interval = s.prepare (leader held interval) := by
  cases held with
  | none => rfl
  | some last =>
    by_cases hid : last.id = interval.id
    · rw [holding, leader, if_pos hid, prepare_prepare_of_id h hid]
    · rw [holding, leader, if_neg hid, prepare_of_invalid h last, prepare_of_invalid h interval]
      exact if_neg fun habout => hid (beq_iff_eq.1 habout)

theorem prepare_prepare (interval : Interval) :
    (s.prepare interval).prepare interval = s.prepare interval := by
  refine if_pos ?_
  unfold prepare
  split
  · assumption
  · exact beq_self_eq_true interval.id

/-- Where every message counts on its own, a message changes nothing but what is looked at. -/
theorem scoreOne_context (h : s.mode = .context) (interval : Interval) (messageId : Nat) :
    s.scoreOne interval messageId =
      (((s.prepare interval).scoreOne interval messageId).1, s.prepare interval) := by
  have hmode : (s.prepare interval).mode = .context := (mode_prepare interval).trans h
  have hnone : ∀ label cluster, (s.prepare interval).representation label cluster =
      (false, s.prepare interval) := fun label cluster => by
    unfold representation
    rw [hmode]
  simp only [scoreOne, prepare_prepare, hnone]

theorem scoreList_context (h : s.mode = .context) (interval : Interval) (ids : List Nat) :
    s.scoreList interval ids =
      (ids.map fun id => ((s.prepare interval).scoreOne interval id).1,
        if ids = [] then s else s.prepare interval) := by
  induction ids generalizing s with
  | nil => rfl
  | cons id ids ih =>
    have hmode : (s.prepare interval).mode = .context := (mode_prepare interval).trans h
    simp only [scoreList, scoreOne_context h, ih hmode, prepare_prepare, ite_self, List.map_cons,
      reduceCtorEq, if_false]

theorem scoreAll_context (h : s.mode = .context) (interval : Interval) :
    s.scoreAll interval =
      (interval.messages.map fun id => ((s.prepare interval).scoreOne interval id).1,
        if interval.messages = [] then s else s.prepare interval) := by
  rw [← scoreList_context h]
  simp only [scoreAll, h]

/-- What is said of an interval depends only on what is known when it has been looked at. -/
theorem scoreAll_congr {t : Scorer α} (hs : s.mode = .context) (ht : t.mode = .context)
    {interval : Interval} (h : s.prepare interval = t.prepare interval) :
    (s.scoreAll interval).1 = (t.scoreAll interval).1 := by
  rw [scoreAll_context hs, scoreAll_context ht, h]

/-- Each interval is scored as by a scorer that has only looked at its leader. -/
theorem scoreIntervals_holding (hmode : s.mode = .context) (hcache : s.cache = .invalid)
    (held : Option Interval) (intervals : List Interval) :
    ((s.holding held).scoreIntervals intervals).1 =
      (intervals.zip (leaders held intervals)).flatMap fun (interval, leader) =>
        ((s.prepare leader).scoreAll interval).1 := by
  induction intervals generalizing held with
  | nil => rfl
  | cons interval intervals ih =>
    have hheld : (s.holding held).mode = .context := (mode_holding held).trans hmode
    have hleader : (s.prepare (leader held interval)).mode = .context :=
      (mode_prepare _).trans hmode
    have hlook : (s.holding held).prepare interval =
        (s.prepare (leader held interval)).prepare interval := by
      rw [prepare_holding hcache, prepare_prepare_of_id hcache (id_leader held interval)]
    have hnext : ((s.holding held).scoreAll interval).2 =
        s.holding (if interval.messages = [] then held else some (leader held interval)) := by
      rw [scoreAll_context hheld, prepare_holding hcache]
      split <;> rfl
    rw [scoreIntervals_cons, leaders, List.zip_cons_cons, List.flatMap_cons, hnext, ih,
      scoreAll_congr hheld hleader hlook]

theorem scoreIntervals_context (hmode : s.mode = .context) (hcache : s.cache = .invalid)
    (intervals : List Interval) :
    (s.scoreIntervals intervals).1 =
      (intervals.zip (leaders none intervals)).flatMap fun (interval, leader) =>
        ((s.prepare leader).scoreAll interval).1 :=
  scoreIntervals_holding hmode hcache none intervals

/-! ## Neighbours that agree -/

/-- Two intervals agree if they have different ids or the same spiking clusters. -/
def Agree (s : Scorer α) (a b : Interval) : Prop :=
  a.id = b.id → spikingClusters s.model s.fraction a = spikingClusters s.model s.fraction b

theorem prepare_leader (hcache : s.cache = .invalid) {held : Option Interval} {interval : Interval}
    (hagree : ∀ last ∈ held, s.Agree last interval) :
    s.prepare (leader held interval) = s.prepare interval := by
  cases held with
  | none => rfl
  | some last =>
    by_cases hid : last.id = interval.id
    · rw [leader, if_pos hid, prepare_of_invalid hcache, prepare_of_invalid hcache, freshCache,
        freshCache, hid, hagree last rfl hid]
    · rw [leader, if_neg hid]

theorem scoreIntervals_holding_of_agree (hmode : s.mode = .context) (hcache : s.cache = .invalid)
    (held : Option Interval) (intervals : List Interval)
    (hagree : (held.toList ++ intervals.filter (·.messages ≠ [])).IsChain s.Agree) :
    ((s.holding held).scoreIntervals intervals).1 =
      intervals.flatMap fun interval => (s.scoreAll interval).1 := by
  induction intervals generalizing held with
  | nil => rfl
  | cons interval intervals ih =>
    have hheld : (s.holding held).mode = .context := (mode_holding held).trans hmode
    rw [scoreIntervals_cons, List.flatMap_cons]
    by_cases hempty : interval.messages = []
    · rw [List.filter_cons_of_neg (by simpa using hempty)] at hagree
      simp only [scoreAll_context hheld, scoreAll_context hmode, hempty, List.map_nil, if_pos,
        ih held hagree]
    · rw [List.filter_cons_of_pos (by simpa using hempty)] at hagree
      have hlast : ∀ last ∈ held, s.Agree last interval := by
        rintro last rfl
        exact (List.isChain_cons_cons.1 hagree).1
      have hrest : ((some interval).toList ++ intervals.filter (·.messages ≠ [])).IsChain
          s.Agree := hagree.right_of_append
      have hlook : (s.holding held).prepare interval = s.prepare interval := by
        rw [prepare_holding hcache, prepare_leader hcache hlast]
      -- what is held may be an older interval, but it is as good as this one
      have hnext : ((s.holding held).scoreAll interval).2 = s.holding (some interval) := by
        rw [scoreAll_context hheld, if_neg hempty, hlook]
        rfl
      rw [scoreAll_congr hheld hmode hlook, hnext, ih (some interval) hrest]

theorem scoreIntervals_of_agree (hmode : s.mode = .context) (hcache : s.cache = .invalid)
    {intervals : List Interval} (hagree : (intervals.filter (·.messages ≠ [])).IsChain s.Agree) :
    (s.scoreIntervals intervals).1 = intervals.flatMap fun interval => (s.scoreAll interval).1 :=
  scoreIntervals_holding_of_agree hmode hcache none intervals hagree

end Scorer

end LogAnomaly
