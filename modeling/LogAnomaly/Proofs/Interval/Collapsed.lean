import LogAnomaly.Interval.Basic
import Mathlib.Data.List.Nodup

/-!
# Collapsed intervals

* `Activity.timeline_merge_eq_none`, `Activity.mem_timeline_merge`: the ticks of a merged activity;
* `messages_insertActivity`: an activity that is added brings at most one more message, and that
  at the end;
* `nodup_messages_collapsed`: after collapsing no message has more than one activity;
* `collapsed_eq_self`: without repeated messages there is nothing to collapse.
-/

namespace LogAnomaly

namespace Activity

variable {a b : Activity}

/-- What one of two activities has no record of, the merged one has none of. -/
theorem timeline_merge_eq_none :
    (a.merge b).timeline = none ↔ a.timeline = none ∨ b.timeline = none := by
  obtain ⟨_, _, s⟩ := a
  obtain ⟨_, _, t⟩ := b
  cases s <;> cases t <;> simp [merge, joinTimelines]

/-- Recorded ticks are kept. -/
theorem mem_timeline_merge (ha : a.timeline ≠ none) (hb : b.timeline ≠ none) (t : Nat) :
    t ∈ (a.merge b).timeline.getD [] ↔ t ∈ a.timeline.getD [] ∨ t ∈ b.timeline.getD [] := by
  obtain ⟨s, hs⟩ := Option.ne_none_iff_exists'.1 ha
  obtain ⟨more, hmore⟩ := Option.ne_none_iff_exists'.1 hb
  simp [merge, hs, hmore, joinTimelines, mem_ascending]

end Activity

namespace Interval

theorem messages_insertActivity (activity : Activity) (s : List Activity) :
    (insertActivity activity s).map (·.messageId) =
      if activity.messageId ∈ s.map (·.messageId) then s.map (·.messageId)
      else s.map (·.messageId) ++ [activity.messageId] := by
  induction s with
  | nil => rfl
  | cons first rest ih =>
    by_cases h : first.messageId = activity.messageId
    · simp [insertActivity, h, Activity.merge]
    · rw [insertActivity, if_neg h, List.map_cons, ih, List.map_cons]
      simp only [List.mem_cons, Ne.symm h, false_or]
      split <;> rfl

theorem nodup_insertActivity (activity : Activity) {s : List Activity}
    (h : (s.map (·.messageId)).Nodup) :
    ((insertActivity activity s).map (·.messageId)).Nodup := by
  rw [messages_insertActivity]
  split
  · exact h
  · rename_i hnew
    rw [← List.concat_eq_append]
    exact h.concat hnew

/-- An activity of a new message comes last. -/
theorem insertActivity_of_notMem {activity : Activity} {s : List Activity}
    (h : activity.messageId ∉ s.map (·.messageId)) :
    insertActivity activity s = s ++ [activity] := by
  induction s with
  | nil => rfl
  | cons first rest ih =>
    rw [List.map_cons, List.mem_cons, not_or] at h
    rw [insertActivity, if_neg (Ne.symm h.1), ih h.2, List.cons_append]

theorem nodup_messages_foldl_add (s : List Activity) {interval : Interval}
    (h : interval.messages.Nodup) : (s.foldl add interval).messages.Nodup := by
  induction s generalizing interval with
  | nil => exact h
  | cons activity rest ih => exact ih (nodup_insertActivity activity h)

theorem nodup_messages_collapsed (interval : Interval) : interval.collapsed.messages.Nodup :=
  nodup_messages_foldl_add interval.activities List.nodup_nil

theorem foldl_add_of_nodup (s : List Activity) (interval : Interval)
    (h : ((interval.activities ++ s).map (·.messageId)).Nodup) :
    s.foldl add interval = { interval with activities := interval.activities ++ s } := by
  induction s generalizing interval with
  | nil => simp
  | cons activity rest ih =>
    have hnew : activity.messageId ∉ interval.activities.map (·.messageId) := fun hmem => by
      rw [List.map_append, List.nodup_append] at h
      exact h.2.2 _ hmem _ (by simp) rfl
    have hadd : interval.add activity =
        { interval with activities := interval.activities ++ [activity] } := by
      rw [add, insertActivity_of_notMem hnew]
    rw [List.foldl_cons, hadd, ih _ (by simpa using h), List.append_assoc]
    rfl

/-- Without repeated messages nothing is merged. -/
theorem collapsed_eq_self {interval : Interval} (h : interval.messages.Nodup) :
    interval.collapsed = interval :=
  foldl_add_of_nodup interval.activities { interval with activities := [] } h

theorem hasRepeats_eq_false_iff {interval : Interval} :
    interval.hasRepeats = false ↔ interval.messages.Nodup := by
  simp [hasRepeats]

end Interval

end LogAnomaly
