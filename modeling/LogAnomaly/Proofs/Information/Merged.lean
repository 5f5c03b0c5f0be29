import LogAnomaly.Proofs.Information.Samples

/-!
# Samples of merged activities

Two activities of one message are merged by their ticks, before it is looked at which ticks are in
range.

* `Activity.samples`: the ticks of an interval that an activity occupies;
* `Activity.LostIn`: only ticks out of range were recorded of an activity, but one in range of
  another. By itself the first one occupies the whole interval;
* `Activity.mem_samples_merge`: a merged activity occupies what the two occupy that are not lost in
  each other;
* `Activity.samples_merge`: so it occupies what the two do together, unless one of them is lost and
  the other one does not occupy the whole interval itself;
* `Activity.stray_lost`: which happens.
-/

namespace LogAnomaly.Activity

open Finset

/-- The ticks of an interval that an activity occupies. -/
def samples (ticksPerInterval : Nat) (activity : Activity) :
    Finset (Fin (Sampling.timeline ticksPerInterval).ticks) :=
  (Occupancy.ofActivity (.timeline ticksPerInterval) activity).samples _

/-- Some tick in range was recorded. -/
def HasTick (ticksPerInterval : Nat) (activity : Activity) : Prop :=
  ∃ tick ∈ activity.timeline.getD [], tick < ticksPerInterval

instance (ticksPerInterval : Nat) (activity : Activity) :
    Decidable (activity.HasTick ticksPerInterval) :=
  inferInstanceAs (Decidable (∃ tick ∈ activity.timeline.getD [], tick < ticksPerInterval))

/-- Ticks were recorded of two activities, but of the first one none in range. -/
def LostIn (ticksPerInterval : Nat) (activity other : Activity) : Prop :=
  activity.timeline ≠ none ∧ ¬ activity.HasTick ticksPerInterval ∧ other.HasTick ticksPerInterval

instance (ticksPerInterval : Nat) (activity other : Activity) :
    Decidable (activity.LostIn ticksPerInterval other) :=
  inferInstanceAs (Decidable (activity.timeline ≠ none ∧ ¬ activity.HasTick ticksPerInterval ∧
    other.HasTick ticksPerInterval))

variable {ticksPerInterval : Nat} {a b : Activity}
  {tick : Fin (Sampling.timeline ticksPerInterval).ticks}

/-- An activity occupies its own ticks, if one of them is in range, and all ticks otherwise. -/
theorem mem_samples :
    tick ∈ a.samples ticksPerInterval ↔
      (a.HasTick ticksPerInterval → tick.val ∈ a.timeline.getD []) := by
  rw [samples, Occupancy.mem_samples, Occupancy.holds_ofActivity]
  obtain ⟨messageId, count, timeline⟩ := a
  cases timeline with
  | none => exact iff_of_true trivial fun h => absurd h (by simp [HasTick])
  | some recorded => exact Iff.rfl

theorem samples_eq_univ (h : ¬ a.HasTick ticksPerInterval) : a.samples ticksPerInterval = univ :=
  eq_univ_of_forall fun _ => mem_samples.2 fun htick => absurd htick h

/-- An activity without a record occupies the whole interval. -/
theorem not_hasTick_of_none (h : a.timeline = none) : ¬ a.HasTick ticksPerInterval := by
  simp [HasTick, h]

/-! ## Merging -/

theorem hasTick_merge (ha : a.timeline ≠ none) (hb : b.timeline ≠ none) :
    (a.merge b).HasTick ticksPerInterval ↔
      a.HasTick ticksPerInterval ∨ b.HasTick ticksPerInterval := by
  simp only [HasTick, mem_timeline_merge ha hb, or_and_right, exists_or]

/-- Where a tick in range was recorded, all ticks of the interval are in range, so that none of them
is among those that are not. -/
theorem notMem_of_not_hasTick (ha : a.HasTick ticksPerInterval)
    (hb : ¬ b.HasTick ticksPerInterval) : tick.val ∉ b.timeline.getD [] := by
  obtain ⟨t, -, ht⟩ := ha
  have hlt : tick.val < ticksPerInterval := by
    have := tick.isLt
    simp only [Sampling.ticks] at this
    omega
  exact fun hmem => hb ⟨tick.val, hmem, hlt⟩

/-- A merged activity occupies what the two occupy that are not lost in each other. -/
theorem mem_samples_merge :
    tick ∈ (a.merge b).samples ticksPerInterval ↔
      (¬ a.LostIn ticksPerInterval b ∧ tick ∈ a.samples ticksPerInterval) ∨
        (¬ b.LostIn ticksPerInterval a ∧ tick ∈ b.samples ticksPerInterval) := by
  by_cases ha : a.timeline = none
  · have hmerge := timeline_merge_eq_none.2 (.inl ha : a.timeline = none ∨ b.timeline = none)
    rw [samples_eq_univ (not_hasTick_of_none hmerge), samples_eq_univ (not_hasTick_of_none ha)]
    exact iff_of_true (mem_univ _) (.inl ⟨fun h => h.1 ha, mem_univ _⟩)
  by_cases hb : b.timeline = none
  · have hmerge := timeline_merge_eq_none.2 (.inr hb : a.timeline = none ∨ b.timeline = none)
    rw [samples_eq_univ (not_hasTick_of_none hmerge), samples_eq_univ (not_hasTick_of_none hb)]
    exact iff_of_true (mem_univ _) (.inr ⟨fun h => h.1 hb, mem_univ _⟩)
  -- with both recorded it matters which of them has a tick in range
  rw [mem_samples, mem_samples, mem_samples, hasTick_merge ha hb, mem_timeline_merge ha hb]
  by_cases hta : a.HasTick ticksPerInterval <;> by_cases htb : b.HasTick ticksPerInterval
  · simp [LostIn, hta, htb]
  · simp [LostIn, hta, hb, htb, notMem_of_not_hasTick hta htb]
  · simp [LostIn, ha, hta, htb, notMem_of_not_hasTick htb hta]
  · simp [LostIn, hta, htb]

theorem samples_merge_comm :
    (a.merge b).samples ticksPerInterval = (b.merge a).samples ticksPerInterval := by
  ext tick
  rw [mem_samples_merge, mem_samples_merge, or_comm]

/-! ## What is lost -/

theorem LostIn.samples_eq_univ (h : a.LostIn ticksPerInterval b) :
    a.samples ticksPerInterval = univ :=
  Activity.samples_eq_univ h.2.1

/-- Nothing is left of a lost activity. -/
theorem LostIn.samples_merge_eq (h : a.LostIn ticksPerInterval b) :
    (a.merge b).samples ticksPerInterval = b.samples ticksPerInterval := by
  have hkept : ¬ b.LostIn ticksPerInterval a := fun hb => hb.2.1 h.2.2
  ext tick
  simp [mem_samples_merge, h, hkept]

/-- A tick is taken away only from an activity that is lost. -/
theorem samples_subset_merge :
    a.samples ticksPerInterval ⊆ (a.merge b).samples ticksPerInterval ↔
      ¬ (a.LostIn ticksPerInterval b ∧ b.samples ticksPerInterval ≠ univ) := by
  by_cases h : a.LostIn ticksPerInterval b
  · rw [h.samples_merge_eq, h.samples_eq_univ, univ_subset_iff, not_and_not_right]
    exact ⟨fun heq _ => heq, fun heq => heq h⟩
  · exact iff_of_true (fun _ htick => mem_samples_merge.2 (.inl ⟨h, htick⟩)) fun hlost => h hlost.1

/-- A merged activity occupies what either of the two occupies, but for one of which only ticks out
of range were recorded while the other one has a tick in range. So no more than what the two occupy
together, and all of it unless one is lost and the other one does not occupy the whole interval;
only then a tick is taken away by merging. -/
theorem samples_merge (ticksPerInterval : Nat) (a b : Activity) :
    let samples (activity : Activity) := activity.samples ticksPerInterval
    let loses (activity other : Activity) : Prop :=
      activity.LostIn ticksPerInterval other ∧ samples other ≠ univ
    samples (a.merge b) =
        (if a.LostIn ticksPerInterval b then ∅ else samples a) ∪
          (if b.LostIn ticksPerInterval a then ∅ else samples b) ∧
      (samples (a.merge b) = samples a ∪ samples b ↔ ¬ loses a b ∧ ¬ loses b a) ∧
      (samples a ⊆ samples (a.merge b) ↔ ¬ loses a b) := by
  intro samples loses
  refine ⟨?_, ?_, samples_subset_merge⟩
  · ext tick
    rw [mem_samples_merge, mem_union]
    split <;> split <;> simp [*, samples]
  · have hsub : samples (a.merge b) ⊆ samples a ∪ samples b := fun tick htick =>
      mem_union.2 ((mem_samples_merge.1 htick).imp And.right And.right)
    have hother : samples b ⊆ samples (a.merge b) ↔ ¬ loses b a := by
      rw [show samples (a.merge b) = samples (b.merge a) from samples_merge_comm]
      exact samples_subset_merge
    calc samples (a.merge b) = samples a ∪ samples b
        ↔ samples a ∪ samples b ⊆ samples (a.merge b) :=
          ⟨fun h => h.ge, fun h => hsub.antisymm h⟩
      _ ↔ samples a ⊆ samples (a.merge b) ∧ samples b ⊆ samples (a.merge b) := union_subset_iff
      _ ↔ ¬ loses a b ∧ ¬ loses b a := and_congr samples_subset_merge hother

/-- A tick out of range, alone, stands for a whole interval of four ticks; with the first tick it
stands for nothing, so that three ticks are lost. -/
theorem stray_lost :
    let stray : Activity := { messageId := 1, count := 1, timeline := some [9] }
    let first : Activity := { messageId := 1, count := 1, timeline := some [0] }
    stray.messageId = first.messageId ∧ stray.samples 4 = univ ∧
      (stray.merge first).samples 4 = {⟨0, by decide⟩} ∧
      (stray.merge first).samples 4 ≠ stray.samples 4 ∪ first.samples 4 := by
  intro stray first
  have hlost : stray.LostIn 4 first := by decide
  have hfirst : (stray.merge first).samples 4 = {⟨0, by decide⟩} := by
    rw [hlost.samples_merge_eq]
    ext tick
    rw [mem_samples]
    revert tick
    decide
  refine ⟨rfl, hlost.samples_eq_univ, hfirst, ?_⟩
  rw [hfirst, hlost.samples_eq_univ, union_eq_left.2 (subset_univ _)]
  decide

end LogAnomaly.Activity
