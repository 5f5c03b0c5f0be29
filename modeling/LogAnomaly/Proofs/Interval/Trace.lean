import LogAnomaly.Proofs.Interval.Collapsed
import Mathlib.Data.Finset.SDiff
import Mathlib.Data.Multiset.Lattice
import Mathlib.Order.WithBot

/-!
# What an interval tells about its messages

* `Interval.trace`: the messages of an interval and their ticks, in no order and without counts;
* `Interval.reach`: all ticks of a message, by its activities in whatever order and number;
* `Interval.reach_collapsed`: no tick is lost or made when activities are merged, so that the
  activity that is left of a message has them all (`Interval.reach_of_mem_collapsed`).
-/

namespace LogAnomaly

/-- Recorded ticks as a set. Without a record they are all ticks. -/
def reachOf : Option (List Nat) → WithTop (Finset Nat)
  | none => ⊤
  | some ticks => (ticks.toFinset : Finset Nat)

/-- The ticks of two activities of one message are those of either. -/
theorem reachOf_joinTimelines (s t : Option (List Nat)) :
    reachOf (Activity.joinTimelines s t) = reachOf s ⊔ reachOf t := by
  match s, t with
  | none, t => exact (top_sup_eq _).symm
  | some ticks, none => exact (sup_top_eq _).symm
  | some ticks, some more =>
    have hset : (ascending (ticks ++ more)).toFinset = ticks.toFinset ⊔ more.toFinset := by
      ext tick
      simp [mem_ascending]
    exact congrArg WithTop.some hset

namespace Interval

/-- The messages of an interval and their ticks, in no order and without counts. -/
def trace (interval : Interval) : Multiset (Nat × Option (List Nat)) :=
  interval.activities.map fun activity => (activity.messageId, activity.timeline)

/-- What one activity adds to the ticks of a message. -/
def share (messageId : Nat) (x : Nat × Option (List Nat)) : WithTop (Finset Nat) :=
  if x.1 = messageId then reachOf x.2 else ⊥

/-- All ticks of a message. -/
def reach (messageId : Nat) (interval : Interval) : WithTop (Finset Nat) :=
  (interval.trace.map (share messageId)).sup

variable {interval : Interval}

theorem contains_iff {messageId : Nat} :
    interval.contains messageId ↔ ∃ x ∈ interval.trace, x.1 = messageId := by
  simp [contains, trace]

theorem contains_iff_mem_messages {messageId : Nat} :
    interval.contains messageId ↔ messageId ∈ interval.messages := by
  simp [contains, messages]

/-! ## Merging activities -/

theorem share_merge (messageId : Nat) {s other : Activity} (h : s.messageId = other.messageId) :
    share messageId (s.messageId, (s.merge other).timeline) =
      share messageId (s.messageId, s.timeline) ⊔
        share messageId (other.messageId, other.timeline) := by
  by_cases hid : other.messageId = messageId
  · simp only [share, h, if_pos hid, Activity.merge, reachOf_joinTimelines]
  · simp only [share, h, if_neg hid, sup_idem]

/-- One more activity adds its own ticks to those of its message. -/
theorem reach_add (messageId : Nat) (activity : Activity) (interval : Interval) :
    (interval.add activity).reach messageId =
      interval.reach messageId ⊔ share messageId (activity.messageId, activity.timeline) := by
  obtain ⟨id, start, activities⟩ := interval
  -- the first activity of the message takes it in, at whatever place that is
  simp only [reach, trace, add, Multiset.map_coe, List.map_map]
  induction activities with
  | nil => simp [insertActivity, Function.comp_def]
  | cons first rest ih =>
    by_cases h : first.messageId = activity.messageId
    · simp only [insertActivity, if_pos h, List.map_cons, Function.comp_apply,
        ← Multiset.cons_coe, Multiset.sup_cons]
      rw [sup_right_comm, ← share_merge messageId h]
      rfl
    · simp only [insertActivity, if_neg h, List.map_cons, ← Multiset.cons_coe,
        Multiset.sup_cons] at ih ⊢
      rw [ih, sup_assoc]

theorem reach_foldl_add (messageId : Nat) (s : List Activity) (interval : Interval) :
    (s.foldl add interval).reach messageId =
      interval.reach messageId ⊔ ({ interval with activities := s } : Interval).reach messageId := by
  induction s generalizing interval with
  | nil => exact (sup_bot_eq _).symm
  | cons activity rest ih =>
    rw [List.foldl_cons, ih, reach_add, sup_assoc]
    simp [reach, trace, ← Multiset.cons_coe]

theorem reach_collapsed (messageId : Nat) (interval : Interval) :
    interval.collapsed.reach messageId = interval.reach messageId :=
  (reach_foldl_add messageId interval.activities _).trans (bot_sup_eq _)

theorem mem_messages_foldl_add {messageId : Nat} (s : List Activity) (interval : Interval) :
    messageId ∈ (s.foldl add interval).messages ↔
      messageId ∈ interval.messages ∨ messageId ∈ s.map (·.messageId) := by
  induction s generalizing interval with
  | nil => simp
  | cons activity rest ih =>
    have hadd : messageId ∈ (interval.add activity).messages ↔
        messageId ∈ interval.messages ∨ messageId = activity.messageId := by
      rw [messages, add, messages_insertActivity]
      split
      · rename_i hmem
        rw [or_iff_left_of_imp (fun h => h ▸ hmem)]
        rfl
      · simp [messages]
    rw [List.foldl_cons, ih, hadd, List.map_cons, List.mem_cons, or_assoc]

theorem contains_collapsed (messageId : Nat) (interval : Interval) :
    interval.collapsed.contains messageId = interval.contains messageId := by
  rw [Bool.eq_iff_iff, contains_iff_mem_messages, contains_iff_mem_messages, collapsed,
    mem_messages_foldl_add]
  simp [messages]

/-! ## The one activity of a message -/

/-- If no message has more than one activity, then each has the ticks of its own. -/
theorem reach_of_nodup (h : interval.messages.Nodup) {activity : Activity}
    (hmem : activity ∈ interval.activities) :
    interval.reach activity.messageId = reachOf activity.timeline := by
  refine le_antisymm (Multiset.sup_le.2 fun ticks hticks => ?_) ?_
  · obtain ⟨x, hx, rfl⟩ := Multiset.mem_map.1 hticks
    obtain ⟨other, hother, rfl⟩ := List.mem_map.1 hx
    by_cases hid : other.messageId = activity.messageId
    · obtain rfl : other = activity := List.inj_on_of_nodup_map h hother hmem hid
      exact (if_pos rfl).le
    · exact (if_neg hid).trans_le bot_le
  · have hown : share activity.messageId (activity.messageId, activity.timeline) =
        reachOf activity.timeline := if_pos rfl
    have htrace : (activity.messageId, activity.timeline) ∈ interval.trace :=
      List.mem_map.2 ⟨activity, hmem, rfl⟩
    exact hown ▸ Multiset.le_sup (Multiset.mem_map_of_mem _ htrace)

/-- What is left of a message after merging has all of its ticks. -/
theorem reach_of_mem_collapsed {activity : Activity}
    (hmem : activity ∈ interval.collapsed.activities) :
    reachOf activity.timeline = interval.reach activity.messageId :=
  (reach_of_nodup (nodup_messages_collapsed interval) hmem).symm.trans (reach_collapsed _ _)

end Interval

end LogAnomaly
