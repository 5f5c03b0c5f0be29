import LogAnomaly.Information.Occupancy
import LogAnomaly.Proofs.Interval.Collapsed
import Mathlib.Algebra.BigOperators.Fin
import Mathlib.Data.Finset.Card
import Mathlib.Data.Fintype.Prod

/-!
# Occupied samples as sets

* `Occupancy.samples`: the ticks at which a message is present, as a set;
* `Occupancy.common_eq_card`: the number of common samples is the size of an intersection;
* `Activity.PresentAt`: when a message is present, by its recorded ticks in whatever order and
  number, and `Occupancy.holds_ofActivity`: its occupancy says just that;
* `Interval.samples`: the ticks of an interval at which a message is present, by the activity that
  all its activities merge into, and `Interval.mem_present`: the rows of an interval are those of
  these activities;
* `occupiedSamples`: the same in many intervals.
-/

namespace LogAnomaly

open Finset

/-! ## Common elements of ascending lists -/

theorem notMem_of_lt_head {a b : Nat} {t : List Nat} (hlt : a < b)
    (ht : (b :: t).Pairwise (· < ·)) : a ∉ (b :: t).toFinset := by
  intro hmem
  rcases List.mem_cons.1 (List.mem_toFinset.1 hmem) with rfl | hmem
  · omega
  · have := (List.pairwise_cons.1 ht).1 a hmem
    omega

/-- Two ascending lists are run through side by side, and no common element is passed over. -/
theorem commonCount_eq_card {s t : List Nat} (hs : s.Pairwise (· < ·)) (ht : t.Pairwise (· < ·)) :
    commonCount s t = (s.toFinset ∩ t.toFinset).card := by
  fun_induction commonCount s t with
  | case1 t => simp
  | case2 a s => simp
  | case3 a s b t hlt ih =>
    rw [ih hs.tail ht, List.toFinset_cons (a := a),
      insert_inter_of_notMem (notMem_of_lt_head hlt ht)]
  | case4 a s b t hge hlt ih =>
    rw [ih hs ht.tail, List.toFinset_cons (a := b),
      inter_insert_of_notMem (notMem_of_lt_head hlt hs)]
  | case5 a s b t hge hge' ih =>
    obtain rfl : a = b := Nat.le_antisymm (Nat.le_of_not_lt hge') (Nat.le_of_not_lt hge)
    have ha : a ∉ s.toFinset := fun hmem =>
      Nat.lt_irrefl a ((List.pairwise_cons.1 hs).1 a (List.mem_toFinset.1 hmem))
    rw [ih hs.tail ht.tail, List.toFinset_cons, List.toFinset_cons, ← insert_inter_distrib,
      card_insert_of_notMem fun hmem => ha (mem_inter.1 hmem).1]

/-! ## When a message is present -/

/-- Whether a message is present at a tick. If a sample is a whole interval, or if no tick in range
was recorded, it is present all the time, and at the recorded ticks otherwise. -/
def Activity.PresentAt (sampling : Sampling) (tick : Nat) (activity : Activity) : Prop :=
  match sampling, activity.timeline with
  | .presence, _ => True
  | .timeline _, none => True
  | .timeline ticksPerInterval, some recorded =>
    (∃ t ∈ recorded, t < ticksPerInterval) → tick ∈ recorded

instance (tick : Nat) : (sampling : Sampling) → (activity : Activity) →
    Decidable (activity.PresentAt sampling tick)
  | .presence, _ => inferInstanceAs (Decidable True)
  | .timeline _, ⟨_, _, none⟩ => inferInstanceAs (Decidable True)
  | .timeline ticksPerInterval, ⟨_, _, some recorded⟩ =>
    inferInstanceAs (Decidable ((∃ t ∈ recorded, t < ticksPerInterval) → tick ∈ recorded))

namespace Occupancy

/-! ## The samples of an occupancy -/

/-- Whether a message is present at a tick. -/
def Holds (tick : Nat) : Occupancy → Prop
  | .all => True
  | .ticks occupied => tick ∈ occupied

instance (tick : Nat) : (o : Occupancy) → Decidable (o.Holds tick)
  | .all => inferInstanceAs (Decidable True)
  | .ticks occupied => inferInstanceAs (Decidable (tick ∈ occupied))

/-- The ticks at which a message is present. -/
def samples (perInterval : Nat) (o : Occupancy) : Finset (Fin perInterval) :=
  univ.filter fun tick => o.Holds tick

/-- The ticks of an occupancy are ascending and in range. -/
def Within (perInterval : Nat) : Occupancy → Prop
  | .all => True
  | .ticks occupied => occupied.Pairwise (· < ·) ∧ ∀ tick ∈ occupied, tick < perInterval

variable {perInterval : Nat}

@[simp] theorem mem_samples {o : Occupancy} {tick : Fin perInterval} :
    tick ∈ o.samples perInterval ↔ o.Holds tick := by
  simp [samples]

theorem samples_all : samples perInterval .all = univ :=
  eq_univ_of_forall fun _ => mem_samples.2 trivial

theorem map_samples_ticks {occupied : List Nat} (h : (ticks occupied).Within perInterval) :
    (samples perInterval (.ticks occupied)).map Fin.valEmbedding = occupied.toFinset := by
  ext tick
  simp only [mem_map, mem_samples, Holds, Fin.valEmbedding_apply, List.mem_toFinset]
  constructor
  · rintro ⟨_, htick, rfl⟩
    exact htick
  · intro htick
    exact ⟨⟨tick, h.2 tick htick⟩, htick, rfl⟩

theorem card_samples_ticks {occupied : List Nat} (h : (ticks occupied).Within perInterval) :
    (samples perInterval (.ticks occupied)).card = occupied.length := by
  rw [← card_map Fin.valEmbedding, map_samples_ticks h,
    List.toFinset_card_of_nodup (h.1.imp Nat.ne_of_lt)]

/-- The number of common samples is that of the ticks at which both are present. -/
theorem common_eq_card {a b : Occupancy} (ha : a.Within perInterval) (hb : b.Within perInterval) :
    a.common perInterval b = (a.samples perInterval ∩ b.samples perInterval).card := by
  match a, b with
  | .all, .all => simp [common, samples_all]
  | .all, .ticks occupied => rw [samples_all, univ_inter, card_samples_ticks hb, common]
  | .ticks occupied, .all => rw [samples_all, inter_univ, card_samples_ticks ha, common]
  | .ticks s, .ticks t =>
    rw [common, commonCount_eq_card ha.1 hb.1, ← card_map Fin.valEmbedding, map_inter,
      map_samples_ticks ha, map_samples_ticks hb]

theorem within_ofActivity (sampling : Sampling) (activity : Activity) :
    (ofActivity sampling activity).Within sampling.ticks := by
  unfold ofActivity
  split
  · trivial
  · trivial
  · rename_i ticksPerInterval recorded _
    split
    · trivial
    · refine ⟨pairwise_ascending _, fun tick htick => ?_⟩
      have hlt : tick < ticksPerInterval := by
        simpa using (List.mem_filter.1 (mem_ascending.1 htick)).2
      exact Nat.lt_of_lt_of_le hlt (Nat.le_max_left ..)

/-- Order, repetitions and ticks out of range do not matter. -/
theorem holds_ofActivity (sampling : Sampling) (activity : Activity) (tick : Fin sampling.ticks) :
    (ofActivity sampling activity).Holds tick ↔ activity.PresentAt sampling tick := by
  obtain ⟨messageId, count, timeline⟩ := activity
  cases sampling with
  | presence => exact Iff.rfl
  | timeline ticksPerInterval =>
    cases timeline with
    | none => exact Iff.rfl
    | some recorded =>
      have hmem : ∀ t, t ∈ ascending (recorded.filter (· < ticksPerInterval)) ↔
          t ∈ recorded ∧ t < ticksPerInterval := by simp [mem_ascending]
      simp only [ofActivity, Activity.PresentAt]
      split
      · rename_i hnone
        have hout : ¬ ∃ t ∈ recorded, t < ticksPerInterval := by
          rintro ⟨t, ht⟩
          have := (hmem t).2 ht
          simp [hnone] at this
        exact iff_of_true trivial fun h => absurd h hout
      · rename_i occupied hsome
        obtain ⟨t, ht⟩ := List.exists_mem_of_ne_nil _ hsome
        obtain ⟨hrecorded, hlt⟩ := (hmem t).1 ht
        have htick : tick.val < ticksPerInterval := by
          have := tick.isLt
          simp only [Sampling.ticks] at this
          omega
        simp only [Holds, hmem, htick, and_true]
        exact ⟨fun h _ => h, fun h => h ⟨t, hrecorded, hlt⟩⟩

end Occupancy

/-! ## The samples of an interval -/

namespace Interval

/-- The ticks of an interval at which a message is present: those of the activity that its
activities merge into. -/
def samples (sampling : Sampling) (messageId : Nat) (interval : Interval) :
    Finset (Fin sampling.ticks) :=
  univ.filter fun tick => ∃ activity ∈ interval.collapsed.activities,
    activity.messageId = messageId ∧ activity.PresentAt sampling tick

variable {sampling : Sampling} {ids : List Nat} {interval : Interval}

theorem present_eq (sampling : Sampling) (ids : List Nat) (interval : Interval) :
    interval.present sampling ids = interval.collapsed.activities.filterMap fun activity =>
      (ids.finIdxOf? activity.messageId).map fun row =>
        (row, Occupancy.ofActivity sampling activity) := by
  unfold present
  split
  · rfl
  · rename_i h
    rw [Bool.not_eq_true, hasRepeats_eq_false_iff] at h
    rw [collapsed_eq_self h]

theorem finIdxOf?_eq_some_iff_of_nodup (hids : ids.Nodup) {id : Nat} {row : Fin ids.length} :
    ids.finIdxOf? id = some row ↔ id = ids.get row := by
  rw [List.finIdxOf?_eq_some_iff]
  refine ⟨fun h => h.1.symm, fun h => ⟨h.symm, fun j hj heq => ?_⟩⟩
  have hrow : j = row := hids.injective_get (heq.trans h)
  exact absurd hj (hrow ▸ lt_irrefl _)

theorem mem_present (hids : ids.Nodup) {row : Fin ids.length} {o : Occupancy} :
    (row, o) ∈ interval.present sampling ids ↔ ∃ activity ∈ interval.collapsed.activities,
      activity.messageId = ids.get row ∧ Occupancy.ofActivity sampling activity = o := by
  rw [present_eq, List.mem_filterMap]
  refine exists_congr fun activity => and_congr_right fun _ => ?_
  simp only [Option.map_eq_some_iff, finIdxOf?_eq_some_iff_of_nodup hids, Prod.mk.injEq]
  exact ⟨fun ⟨_, h, hrow, ho⟩ => ⟨hrow ▸ h, ho⟩, fun ⟨h, ho⟩ => ⟨row, h, rfl, ho⟩⟩

/-- Every row comes at most once. -/
theorem nodup_present (sampling : Sampling) (interval : Interval) (hids : ids.Nodup) :
    ((interval.present sampling ids).map Prod.fst).Nodup := by
  have hrows : (interval.present sampling ids).map Prod.fst =
      interval.collapsed.messages.filterMap fun id => ids.finIdxOf? id := by
    rw [present_eq, messages, List.map_filterMap, List.filterMap_map]
    refine List.filterMap_congr fun activity _ => ?_
    simp [Function.comp_def]
  rw [hrows]
  refine (nodup_messages_collapsed interval).filterMap fun a b row ha hb => ?_
  exact ((finIdxOf?_eq_some_iff_of_nodup hids).1 ha).trans
    ((finIdxOf?_eq_some_iff_of_nodup hids).1 hb).symm

theorem within_of_mem_present {row : Fin ids.length} {o : Occupancy}
    (h : (row, o) ∈ interval.present sampling ids) : o.Within sampling.ticks := by
  rw [present_eq, List.mem_filterMap] at h
  obtain ⟨activity, -, h⟩ := h
  obtain ⟨_, -, heq⟩ := Option.map_eq_some_iff.1 h
  obtain ⟨-, rfl⟩ := Prod.mk.inj heq
  exact Occupancy.within_ofActivity sampling activity

end Interval

/-! ## The samples of many intervals -/

/-- A sample: an interval, by its place in the list, and a tick of it. If a sample is a whole
interval, then this has one tick. -/
abbrev Sample (sampling : Sampling) (intervals : List Interval) : Type :=
  Fin intervals.length × Fin sampling.ticks

/-- The samples in which a message is present. -/
def occupiedSamples (sampling : Sampling) (intervals : List Interval) (messageId : Nat) :
    Finset (Sample sampling intervals) :=
  univ.filter fun s => s.2 ∈ intervals[s.1].samples sampling messageId

theorem card_inter_occupiedSamples (sampling : Sampling) (intervals : List Interval) (a b : Nat) :
    (occupiedSamples sampling intervals a ∩ occupiedSamples sampling intervals b).card =
      (intervals.map fun interval =>
        (interval.samples sampling a ∩ interval.samples sampling b).card).sum := by
  rw [occupiedSamples, occupiedSamples, ← filter_and, card_filter, Fintype.sum_prod_type,
    ← Fin.sum_univ_fun_getElem]
  refine sum_congr rfl fun place _ => ?_
  rw [← card_filter]
  congr 1
  ext tick
  simp

end LogAnomaly
