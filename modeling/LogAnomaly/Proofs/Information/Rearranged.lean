import LogAnomaly.Information.Matrix
import LogAnomaly.Proofs.Ascending
import LogAnomaly.Proofs.Information.Matrix
import LogAnomaly.Proofs.Interval.Trace

/-!
# Rearranged intervals

* `traces`, `messageSets`: what is left of intervals when all order is forgotten;
* `Shows`: a view of an interval from which its messages and their samples can be told;
* `shows_trace`, `shows_messageSet`: the trace of an interval is such a view, and if a sample is a
  whole interval then so are its messages;
* `Shows.ofIntervals_congr`: intervals that look alike in such a view, in whatever order they come,
  have the same information matrix.
-/

namespace LogAnomaly

/-- Intervals without their order, their ids and starts, and without the order and the counts of
their activities. -/
def traces (intervals : List Interval) : Multiset (Multiset (Nat × Option (List Nat))) :=
  intervals.map Interval.trace

/-- The messages of an interval, each once and in no order. -/
def Interval.messageSet (interval : Interval) : Finset Nat := interval.messages.toFinset

/-- Intervals without anything but their messages. -/
def messageSets (intervals : List Interval) : Multiset (Finset Nat) :=
  intervals.map Interval.messageSet

/-- A view of an interval from which its messages and their samples can be told. -/
structure Shows {β : Type} (sampling : Sampling) (view : Interval → β) : Prop where
  contains : ∀ a b, view a = view b → a.contains = b.contains
  samples : ∀ a b, view a = view b → ∀ id, a.samples sampling id = b.samples sampling id

/-! ## Views of one interval -/

/-- When a message is present is told by its ticks as a set, and without them if a sample is a whole
interval. -/
theorem Activity.presentAt_congr {sampling : Sampling} {a b : Activity}
    (h : sampling = .presence ∨ reachOf a.timeline = reachOf b.timeline) (tick : Nat) :
    a.PresentAt sampling tick ↔ b.PresentAt sampling tick := by
  obtain ⟨_, _, s⟩ := a
  obtain ⟨_, _, t⟩ := b
  match sampling, s, t, h with
  | .presence, _, _, _ => exact Iff.rfl
  | .timeline _, none, none, _ => exact Iff.rfl
  | .timeline _, none, some ticks, .inr h => exact absurd h.symm (WithTop.coe_ne_top)
  | .timeline _, some ticks, none, .inr h => exact absurd h (WithTop.coe_ne_top)
  | .timeline _, some ticks, some more, .inr h =>
    have hset : ticks.toFinset = more.toFinset := WithTop.coe_injective h
    have hmem : ∀ t, t ∈ ticks ↔ t ∈ more := fun t => by
      rw [← List.mem_toFinset, hset, List.mem_toFinset]
    simp only [PresentAt, hmem]

namespace Interval

variable {sampling : Sampling} {a b : Interval}

theorem samples_subset (hcontains : a.contains = b.contains)
    (hreach : sampling = .presence ∨ ∀ id, a.reach id = b.reach id) (id : Nat) :
    a.samples sampling id ⊆ b.samples sampling id := by
  intro tick htick
  simp only [samples, Finset.mem_filter_univ] at htick ⊢
  obtain ⟨activity, hmem, rfl, hpresent⟩ := htick
  have hoccurs : b.collapsed.contains activity.messageId := by
    rw [contains_collapsed, ← hcontains, ← contains_collapsed, contains_iff_mem_messages]
    exact List.mem_map_of_mem hmem
  obtain ⟨other, hother, hid⟩ := List.mem_map.1 (contains_iff_mem_messages.1 hoccurs)
  refine ⟨other, hother, hid, (Activity.presentAt_congr (hreach.imp_right fun h => ?_) _).1 hpresent⟩
  rw [reach_of_mem_collapsed hmem, reach_of_mem_collapsed hother, hid, h]

theorem samples_congr (hcontains : a.contains = b.contains)
    (hreach : sampling = .presence ∨ ∀ id, a.reach id = b.reach id) (id : Nat) :
    a.samples sampling id = b.samples sampling id :=
  (samples_subset hcontains hreach id).antisymm
    (samples_subset hcontains.symm (hreach.imp_right fun h id => (h id).symm) id)

end Interval

/-- The trace of an interval tells all that a matrix is made of. -/
theorem shows_trace (sampling : Sampling) : Shows sampling Interval.trace := by
  have hcontains : ∀ a b : Interval, a.trace = b.trace → a.contains = b.contains := by
    intro a b h
    funext id
    rw [Bool.eq_iff_iff, Interval.contains_iff, Interval.contains_iff, h]
  refine ⟨hcontains, fun a b h => Interval.samples_congr (hcontains a b h) (.inr fun id => ?_)⟩
  rw [Interval.reach, Interval.reach, h]

/-- If a sample is a whole interval, then the messages of an interval are enough. -/
theorem shows_messageSet : Shows .presence Interval.messageSet := by
  have hcontains : ∀ a b : Interval, a.messageSet = b.messageSet → a.contains = b.contains := by
    intro a b h
    funext id
    rw [Bool.eq_iff_iff, Interval.contains_iff_mem_messages, Interval.contains_iff_mem_messages,
      ← List.mem_toFinset, ← List.mem_toFinset]
    exact iff_of_eq (congrArg (id ∈ ·) h)
  exact ⟨hcontains, fun a b h => Interval.samples_congr (hcontains a b h) (.inl rfl)⟩

/-! ## Counts over intervals -/

/-- What a view tells of each element of a list, it tells of the list in any order. -/
theorem perm_map_of_view {α β γ : Type} [Nonempty γ] {view : α → β} {f : α → γ}
    (hf : ∀ a b, view a = view b → f a = f b) {s t : List α}
    (h : (s.map view).Perm (t.map view)) : (s.map f).Perm (t.map f) := by
  obtain ⟨g, rfl⟩ := (Function.factorsThrough_iff f).1 fun a b => hf a b
  rw [← List.map_map, ← List.map_map]
  exact h.map g

theorem length_eq_of_perm_map {α β : Type} {view : α → β} {s t : List α}
    (h : (s.map view).Perm (t.map view)) : s.length = t.length := by
  simpa using h.length_eq

/-- A table is known by its cells. -/
theorem CommonSamples.ext_cell {n : Nat} {s t : CommonSamples n}
    (h : ∀ i j, s.cell i j = t.cell i j) : s = t := by
  obtain ⟨s⟩ := s
  obtain ⟨t⟩ := t
  congr 1
  ext i hi j hj
  exact h ⟨i, hi⟩ ⟨j, hj⟩

namespace InformationMatrix

/-- The cells of the matrix of the given messages. -/
def infoOf {α : Type} [Add α] [Sub α] [Mul α] [Div α] [NatCast α] [LT α] [DecidableLT α]
    [Logarithm α] (sampling : Sampling) (ids : List Nat) (intervals : List Interval) :
    SquareMatrix α :=
  let common := CommonSamples.ofIntervals sampling ids intervals
  .ofCells fun i j : Fin ids.length =>
    if i = j then ((0 : Nat) : α)
    else binaryInformation (common.cell i j) (common.cell i i) (common.cell j j)
      (max intervals.length 1 * sampling.ticks)

/-- A matrix is known by its data. -/
theorem ext_fields {α : Type} {a b : InformationMatrix α} (hinfo : a.info = b.info)
    (hids : a.ids = b.ids) (happearances : a.appearances = b.appearances)
    (hintervals : a.intervals = b.intervals) (hseen : a.seen = b.seen) : a = b := by
  cases a
  cases b
  congr

end InformationMatrix

/-- Messages that appear equally often are the same messages. -/
theorem occurring_congr {s t : List Interval} (h : appearances s = appearances t) :
    occurring s = occurring t :=
  IdSet.ext fun id => by
    rw [mem_occurring, mem_occurring, ← appearances_pos, ← appearances_pos, h]

namespace Shows

variable {β : Type} {sampling : Sampling} {view : Interval → β} (hview : Shows sampling view)
  {s t : List Interval} (h : (s.map view).Perm (t.map view))
include hview h

theorem appearances_congr : appearances s = appearances t := by
  funext id
  have hcount : ∀ u : List Interval,
      appearances u id = (u.map Interval.contains).countP fun contains => contains id := fun u => by
    rw [List.countP_map]
    rfl
  rw [hcount, hcount]
  exact (perm_map_of_view hview.contains h).countP_eq _

theorem commonSamples_congr {ids : List Nat} (hids : ids.Nodup) :
    CommonSamples.ofIntervals sampling ids s = CommonSamples.ofIntervals sampling ids t := by
  refine CommonSamples.ext_cell fun i j => ?_
  rw [CommonSamples.cell_ofIntervals hids, CommonSamples.cell_ofIntervals hids,
    card_inter_occupiedSamples, card_inter_occupiedSamples]
  refine (perm_map_of_view (fun a b hab => ?_) h).sum_eq
  rw [hview.samples a b hab, hview.samples a b hab]

variable {α : Type} [Add α] [Sub α] [Mul α] [Div α] [NatCast α] [LT α] [DecidableLT α]
  [Logarithm α]

theorem infoOf_congr {ids : List Nat} (hids : ids.Nodup) :
    (InformationMatrix.infoOf sampling ids s : SquareMatrix α) =
      InformationMatrix.infoOf sampling ids t := by
  rw [InformationMatrix.infoOf, InformationMatrix.infoOf, hview.commonSamples_congr h hids,
    length_eq_of_perm_map h]

/-- The matrix of intervals is known from any view that tells their messages and samples. -/
theorem ofIntervals_congr (minAppearances : Nat) :
    (InformationMatrix.ofIntervals sampling minAppearances s : InformationMatrix α) =
      .ofIntervals sampling minAppearances t := by
  have happearances := hview.appearances_congr h
  have hseen := occurring_congr happearances
  have hids : InformationMatrix.survivors minAppearances s =
      InformationMatrix.survivors minAppearances t := by
    rw [InformationMatrix.survivors, InformationMatrix.survivors, hseen, happearances]
  refine InformationMatrix.ext_fields ?_ hids ?_ (congrArg (max · 1) (length_eq_of_perm_map h)) hseen
  · show InformationMatrix.infoOf sampling (InformationMatrix.survivors minAppearances s) s =
      InformationMatrix.infoOf sampling (InformationMatrix.survivors minAppearances t) t
    rw [hids, hview.infoOf_congr h (nodup_survivors minAppearances t)]
  · show (InformationMatrix.survivors minAppearances s).map (appearances s) =
      (InformationMatrix.survivors minAppearances t).map (appearances t)
    rw [hids, happearances]

end Shows

end LogAnomaly
