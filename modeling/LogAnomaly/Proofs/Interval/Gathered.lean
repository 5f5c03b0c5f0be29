import LogAnomaly.Proofs.Interval.Collapsed
import Mathlib.Algebra.Ring.Nat
import Mathlib.Data.List.Induction

/-!
# What is left of a message

* `Activity.Gathers`: one activity for all those of a message, and nothing more. One more activity
  that is merged is gathered too (`Activity.Gathers.merge`);
* `Interval.mem_insertActivity`: what an activity that is added changes;
* `Interval.gathers_foldl_add`: so after any number of them each activity gathers those of its
  message;
* `Interval.repeatsAfter`: the search for a message that comes twice;
* `Interval.collapsed_gathers`: what collapsing an interval gives, and when it changes nothing.
-/

namespace LogAnomaly

/-! ## One activity for several -/

/-- One activity for all those of a message. -/
structure Activity.Gathers (parts : List Activity) (a : Activity) : Prop where
  parts_ne_nil : parts ≠ []
  count_eq : a.count = (parts.map (·.count)).sum
  /-- Ticks are not recorded if those of some activity are not. -/
  timeline_eq_none_iff : a.timeline = none ↔ ∃ part ∈ parts, part.timeline = none
  /-- Recorded ticks are those of all activities. -/
  mem_timeline_iff : ∀ ticks, a.timeline = some ticks →
    ∀ tick, tick ∈ ticks ↔ ∃ part ∈ parts, tick ∈ part.timeline.getD []
  /-- The ticks of several activities are put in order, each once. -/
  ascending_of_several : 1 < parts.length →
    ∀ ticks, a.timeline = some ticks → ticks.Pairwise (· < ·)
  /-- A single activity is left as it is. -/
  eq_of_single : ∀ part, parts = [part] → a = part

namespace Activity

theorem Gathers.single (a : Activity) : a.Gathers [a] where
  parts_ne_nil := List.cons_ne_nil _ _
  count_eq := by simp
  timeline_eq_none_iff := by simp
  mem_timeline_iff ticks hticks tick := by simp [hticks]
  ascending_of_several h := absurd h (by simp)
  eq_of_single _ h := (List.singleton_inj.1 h)

/-- Ticks that a merge records are those that both activities record, put in order. -/
theorem exists_of_timeline_merge {a x : Activity} {ticks : List Nat}
    (h : (a.merge x).timeline = some ticks) :
    ∃ old more, a.timeline = some old ∧ x.timeline = some more ∧
      ticks = ascending (old ++ more) := by
  have hnone : ¬ (a.timeline = none ∨ x.timeline = none) := by
    rw [← timeline_merge_eq_none, h]
    exact Option.some_ne_none ticks
  obtain ⟨ha, hx⟩ := not_or.1 hnone
  obtain ⟨old, hold⟩ := Option.ne_none_iff_exists'.1 ha
  obtain ⟨more, hmore⟩ := Option.ne_none_iff_exists'.1 hx
  have hjoined : (a.merge x).timeline = some (ascending (old ++ more)) := by
    rw [Activity.merge, hold, hmore, joinTimelines]
  exact ⟨old, more, hold, hmore, Option.some_inj.1 (h.symm.trans hjoined)⟩

/-- One more activity of the message is gathered too. -/
theorem Gathers.merge {parts : List Activity} {a : Activity} (h : a.Gathers parts) (x : Activity) :
    (a.merge x).Gathers (parts ++ [x]) where
  parts_ne_nil := by simp
  count_eq := by
    have hsum : (a.merge x).count = a.count + x.count := rfl
    rw [hsum, h.count_eq]
    simp
  timeline_eq_none_iff := by
    rw [timeline_merge_eq_none, h.timeline_eq_none_iff]
    simp [or_and_right, exists_or]
  mem_timeline_iff ticks hticks tick := by
    obtain ⟨old, more, hold, hmore, rfl⟩ := exists_of_timeline_merge hticks
    rw [mem_ascending, List.mem_append, h.mem_timeline_iff old hold]
    simp [or_and_right, exists_or, hmore]
  ascending_of_several _ ticks hticks := by
    obtain ⟨old, more, -, -, rfl⟩ := exists_of_timeline_merge hticks
    exact pairwise_ascending _
  eq_of_single part hsingle := by
    have hlength := congrArg List.length hsingle
    have hpos := List.length_pos_of_ne_nil h.parts_ne_nil
    rw [List.length_append, List.length_singleton, List.length_singleton] at hlength
    omega

end Activity

/-! ## Adding activities -/

namespace Interval

/-- The activities of a message, in their order. -/
def activitiesOf (messageId : Nat) (activities : List Activity) : List Activity :=
  activities.filter (·.messageId == messageId)

theorem activitiesOf_concat_self (x : Activity) (s : List Activity) :
    activitiesOf x.messageId (s ++ [x]) = activitiesOf x.messageId s ++ [x] := by
  simp [activitiesOf]

theorem activitiesOf_concat_of_ne {messageId : Nat} {x : Activity} (h : messageId ≠ x.messageId)
    (s : List Activity) : activitiesOf messageId (s ++ [x]) = activitiesOf messageId s := by
  simp [activitiesOf, Ne.symm h]

theorem activitiesOf_eq_nil {messageId : Nat} {s : List Activity}
    (h : messageId ∉ s.map (·.messageId)) : activitiesOf messageId s = [] := by
  refine List.filter_eq_nil_iff.2 fun a ha heq => h ?_
  exact List.mem_map.2 ⟨a, ha, beq_iff_eq.1 heq⟩

/-- An activity that is added is merged into the one of its message, or it is the first one. The
others are left alone. -/
theorem mem_insertActivity {x a : Activity} {s : List Activity}
    (hnodup : (s.map (·.messageId)).Nodup) (h : a ∈ insertActivity x s) :
    (a ∈ s ∧ a.messageId ≠ x.messageId) ∨
      (∃ b ∈ s, b.messageId = x.messageId ∧ a = b.merge x) ∨
      (x.messageId ∉ s.map (·.messageId) ∧ a = x) := by
  induction s with
  | nil => exact .inr (.inr ⟨List.not_mem_nil, List.mem_singleton.1 h⟩)
  | cons first rest ih =>
    obtain ⟨hfirst, hrest⟩ := List.nodup_cons.1 hnodup
    rw [insertActivity] at h
    split at h
    · rename_i hid
      rcases List.mem_cons.1 h with rfl | h
      · exact .inr (.inl ⟨first, List.mem_cons_self, hid, rfl⟩)
      · refine .inl ⟨List.mem_cons_of_mem _ h, fun heq => hfirst ?_⟩
        exact List.mem_map.2 ⟨a, h, heq.trans hid.symm⟩
    · rename_i hid
      rcases List.mem_cons.1 h with rfl | h
      · exact .inl ⟨List.mem_cons_self, hid⟩
      · rcases ih hrest h with ⟨ha, hne⟩ | ⟨b, hb, hbid, rfl⟩ | ⟨hnew, rfl⟩
        · exact .inl ⟨List.mem_cons_of_mem _ ha, hne⟩
        · exact .inr (.inl ⟨b, List.mem_cons_of_mem _ hb, hbid, rfl⟩)
        · exact .inr (.inr ⟨by simp [Ne.symm hid, hnew], rfl⟩)

theorem eraseDups_concat (ids : List Nat) (id : Nat) :
    (ids ++ [id]).eraseDups = if id ∈ ids then ids.eraseDups else ids.eraseDups ++ [id] := by
  rw [List.eraseDups_append]
  by_cases h : id ∈ ids
  · simp [List.removeAll, h]
  · simp [List.removeAll, h, List.eraseDups_cons]

/-- Messages stay in the order of their first activities. -/
theorem messages_foldl_add (s : List Activity) (id : Nat) (start : Instant) :
    (s.foldl add { id, start }).messages = (s.map (·.messageId)).eraseDups := by
  induction s using List.reverseRecOn with
  | nil => rfl
  | append_singleton s x ih =>
    have hadd : ((s ++ [x]).foldl add { id, start }).messages =
        (insertActivity x (s.foldl add { id, start }).activities).map (·.messageId) := by
      rw [List.foldl_append]
      rfl
    rw [messages] at ih
    rw [hadd, messages_insertActivity, ih, List.map_append, List.map_singleton, eraseDups_concat]
    exact if_congr List.mem_eraseDups rfl rfl

/-- Each activity gathers those of its message. -/
theorem gathers_foldl_add (s : List Activity) (id : Nat) (start : Instant) :
    ∀ a ∈ (s.foldl add { id, start }).activities, a.Gathers (activitiesOf a.messageId s) := by
  induction s using List.reverseRecOn with
  | nil => simp
  | append_singleton s x ih =>
    intro a ha
    rw [List.foldl_append] at ha
    have hnodup : (s.foldl add { id, start }).messages.Nodup :=
      nodup_messages_foldl_add s List.nodup_nil
    rcases mem_insertActivity hnodup ha with ⟨ha, hne⟩ | ⟨b, hb, hbid, rfl⟩ | ⟨hnew, rfl⟩
    · rw [activitiesOf_concat_of_ne hne]
      exact ih a ha
    · have hid : (b.merge x).messageId = x.messageId := hbid
      rw [hid, activitiesOf_concat_self, ← hbid]
      exact (ih b hb).merge x
    · have hold : (s.foldl add { id, start }).activities.map (·.messageId) =
          (s.map (·.messageId)).eraseDups := messages_foldl_add s id start
      rw [hold, List.mem_eraseDups] at hnew
      rw [activitiesOf_concat_self, activitiesOf_eq_nil hnew]
      exact .single a

/-! ## Repeated messages -/

/-- Whether a message comes that was seen before. The messages are looked through once, and each is
put to those seen. -/
def repeatsAfter (seen : List Nat) : List Nat → Bool
  | [] => false
  | id :: rest => seen.contains id || repeatsAfter (id :: seen) rest

theorem repeatsAfter_eq_false_iff (seen ids : List Nat) :
    repeatsAfter seen ids = false ↔ ids.Nodup ∧ ∀ id ∈ ids, id ∉ seen := by
  induction ids generalizing seen with
  | nil => simp [repeatsAfter]
  | cons id rest ih =>
    rw [repeatsAfter, Bool.or_eq_false_iff, ih, List.nodup_cons]
    simp only [List.contains_eq_mem, decide_eq_false_iff_not, List.mem_cons, not_or,
      forall_eq_or_imp]
    constructor
    · rintro ⟨hid, hrest, hnew⟩
      exact ⟨⟨fun hmem => (hnew id hmem).1 rfl, hrest⟩, hid, fun other hother => (hnew other hother).2⟩
    · rintro ⟨⟨hid, hrest⟩, hseen, hnew⟩
      exact ⟨hseen, hrest, fun other hother =>
        ⟨fun heq => hid (heq ▸ hother), hnew other hother⟩⟩

theorem hasRepeats_eq_repeatsAfter (interval : Interval) :
    interval.hasRepeats = repeatsAfter [] interval.messages := by
  have h := repeatsAfter_eq_false_iff [] interval.messages
  rw [Bool.eq_iff_iff, ← not_iff_not, Bool.not_eq_true, Bool.not_eq_true, hasRepeats_eq_false_iff, h]
  simp

/-! ## Collapsed intervals -/

theorem collapsed_eq_self_iff {interval : Interval} :
    interval.collapsed = interval ↔ interval.messages.Nodup :=
  ⟨fun h => h ▸ nodup_messages_collapsed interval, collapsed_eq_self⟩

/-- An interval with one activity for each message of another one. -/
structure CollapseOf (interval result : Interval) : Prop where
  id_eq : result.id = interval.id
  start_eq : result.start = interval.start
  messages_nodup : result.messages.Nodup
  /-- The messages are in the order in which they first occur. -/
  messages_eq : result.messages = interval.messages.eraseDups
  gathers : ∀ a ∈ result.activities, a.Gathers (activitiesOf a.messageId interval.activities)

theorem foldl_add_kept (s : List Activity) (interval : Interval) :
    (s.foldl add interval).id = interval.id ∧ (s.foldl add interval).start = interval.start := by
  induction s generalizing interval with
  | nil => exact ⟨rfl, rfl⟩
  | cons x s ih => exact ih (interval.add x)

/-- Collapsing an interval neither loses nor invents anything: it keeps the identity of the interval
and gathers the activities of each message, in the order in which messages first occur. To collapse
it again changes nothing, and the interval itself is changed if a message comes twice. Activities
that are added one after the other are collapsed as well. -/
theorem collapsed_gathers (interval : Interval) :
    CollapseOf interval interval.collapsed ∧
      interval.collapsed.collapsed = interval.collapsed ∧
      (interval.collapsed = interval ↔ interval.hasRepeats = false) ∧
      interval.hasRepeats = repeatsAfter [] interval.messages ∧
      ∀ (id : Nat) (start : Instant) (activities : List Activity),
        activities.foldl add { id, start } = ({ id, start, activities } : Interval).collapsed := by
  obtain ⟨hid, hstart⟩ := foldl_add_kept interval.activities { interval with activities := [] }
  refine ⟨{
    id_eq := hid
    start_eq := hstart
    messages_nodup := nodup_messages_collapsed interval
    messages_eq := messages_foldl_add interval.activities interval.id interval.start
    gathers := gathers_foldl_add interval.activities interval.id interval.start }, ?_, ?_, ?_, ?_⟩
  · exact collapsed_eq_self (nodup_messages_collapsed interval)
  · rw [collapsed_eq_self_iff, hasRepeats_eq_false_iff]
  · exact hasRepeats_eq_repeatsAfter interval
  · exact fun _ _ _ => rfl

end Interval

end LogAnomaly
