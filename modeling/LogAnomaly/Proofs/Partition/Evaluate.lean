import LogAnomaly.Partition.Evaluate
import LogAnomaly.Proofs.Partition.Labels

/-!
# Tables in place of clusters

What labels are worth, and the partition of labels, are computed from tables that one pass fills.
They are what a look at one cluster after the other gives, with the same operations in the same
order, so in floats too.

* `addRows_get`: the tables of a cluster are the number of its rows and the sum over their pairs;
* `evaluate_eq_labelsWorth`: so labels are worth the sum over their clusters;
* `renumber_getElem?`: a label in use gets its place among those in use;
* `Partition.compact_eq_ofLabels`: so the partition has the labels in use as its clusters.
-/

namespace LogAnomaly

/-! ## Cells of tables -/

namespace SearchState

variable {k : Nat}

theorem get_replicate {β : Type} (x : β) (c : Fin k) : (Vector.replicate k x).get c = x := by
  show (Vector.replicate k x)[c] = x
  simp

theorem get_ofFn {β : Type} (f : Fin k → β) (c : Fin k) : (Vector.ofFn f).get c = f c := by
  show (Vector.ofFn f)[c] = f c
  simp

theorem addAt_get_self {β : Type} [Add β] (table : Vector β k) (c : Fin k) (x : β) :
    (addAt table c x).get c = table.get c + x := by
  show (table.set c (table[c] + x))[c] = table[c] + x
  simp

theorem addAt_get_of_ne {β : Type} [Add β] (table : Vector β k) {place c : Fin k}
    (h : place ≠ c) (x : β) : (addAt table place x).get c = table.get c := by
  show (table.set place (table[place] + x))[c] = table[c]
  have hv : place.val ≠ c.val := fun hv => h (Fin.ext hv)
  simp [hv]

end SearchState

open SearchState

/-! ## What labels are worth -/

section Evaluate

variable {α : Type} {k : Nat} {m : InformationMatrix α} {labels : Vector (Fin k) m.size}

/-- Of some rows those of a cluster. -/
def rowsAmong (labels : Vector (Fin k) m.size) (c : Fin k) (rows : List (Fin m.size)) :
    List (Fin m.size) :=
  rows.filter fun i => labels.get i = c

theorem rowsAmong_cons_self {c : Fin k} {i : Fin m.size} (h : labels.get i = c)
    (rows : List (Fin m.size)) : rowsAmong labels c (i :: rows) = i :: rowsAmong labels c rows :=
  List.filter_cons_of_pos (by simpa using h)

theorem rowsAmong_cons_of_ne {c : Fin k} {i : Fin m.size} (h : labels.get i ≠ c)
    (rows : List (Fin m.size)) : rowsAmong labels c (i :: rows) = rowsAmong labels c rows :=
  List.filter_cons_of_neg (by simpa using h)

variable [Add α]

/-- Amounts that are added to a sum from the left. -/
def addEach (sum : α) (amounts : List α) : α := amounts.foldl (· + ·) sum

theorem addEach_append (sum : α) (xs ys : List α) :
    addEach sum (xs ++ ys) = addEach (addEach sum xs) ys :=
  List.foldl_append

theorem addPairs_cons (i j : Fin m.size) (later : List (Fin m.size)) (intra : Vector α k) :
    addPairs m labels i (j :: later) intra =
      addPairs m labels i later
        (if labels.get j = labels.get i then addAt intra (labels.get i) (m.cell i j) else intra) :=
  rfl

/-- The pairs of a row with later ones are added to the sum of its cluster ... -/
theorem addPairs_get_self (i : Fin m.size) (later : List (Fin m.size)) (intra : Vector α k) :
    (addPairs m labels i later intra).get (labels.get i) =
      addEach (intra.get (labels.get i))
        ((rowsAmong labels (labels.get i) later).map (m.cell i)) := by
  induction later generalizing intra with
  | nil => rfl
  | cons j later ih =>
    rw [addPairs_cons, ih]
    by_cases h : labels.get j = labels.get i
    · rw [if_pos h, addAt_get_self, rowsAmong_cons_self h]
      rfl
    · rw [if_neg h, rowsAmong_cons_of_ne h]

/-- ... and to no other one. -/
theorem addPairs_get_of_ne {i : Fin m.size} {c : Fin k} (hc : labels.get i ≠ c)
    (later : List (Fin m.size)) (intra : Vector α k) :
    (addPairs m labels i later intra).get c = intra.get c := by
  induction later generalizing intra with
  | nil => rfl
  | cons j later ih =>
    rw [addPairs_cons, ih]
    split
    · exact addAt_get_of_ne intra hc _
    · rfl

/-- Rows that are added to the tables: a cluster gets the number of its rows, and the sum over
their pairs in the order of the rows. -/
theorem addRows_get (labels : Vector (Fin k) m.size) (rows : List (Fin m.size))
    (sizes : Vector Nat k) (intra : Vector α k) (c : Fin k) :
    (addRows m labels rows (sizes, intra)).1.get c =
        sizes.get c + (rowsAmong labels c rows).length ∧
      (addRows m labels rows (sizes, intra)).2.get c =
        addEach (intra.get c) ((pairs (rowsAmong labels c rows)).map fun (i, j) => m.cell i j) := by
  induction rows generalizing sizes intra with
  | nil => exact ⟨rfl, rfl⟩
  | cons i later ih =>
    obtain ⟨hsizes, hintra⟩ := ih (addAt sizes (labels.get i) 1) (addPairs m labels i later intra)
    have hstep : addRows m labels (i :: later) (sizes, intra) = addRows m labels later
        (addAt sizes (labels.get i) 1, addPairs m labels i later intra) := rfl
    rw [hstep, hsizes, hintra]
    by_cases h : labels.get i = c
    · subst h
      rw [rowsAmong_cons_self rfl, addAt_get_self, addPairs_get_self, pairs, List.map_append,
        addEach_append, List.map_map, List.length_cons]
      exact ⟨by omega, rfl⟩
    · rw [rowsAmong_cons_of_ne h, addAt_get_of_ne sizes h, addPairs_get_of_ne h]
      exact ⟨rfl, rfl⟩

variable [NatCast α]

/-- Labels are worth the sum over their clusters, the order of all sums included. -/
theorem evaluate_eq_labelsWorth (objective : Objective α) (m : InformationMatrix α)
    (labels : Vector (Fin k) m.size) :
    evaluate objective m labels =
      labelsWorth objective m k fun i => (labels.get i).val := by
  let tables := addRows m labels (List.finRange m.size)
    (Vector.replicate k 0, Vector.replicate k ((0 : Nat) : α))
  have hrows : ∀ c : Fin k,
      rowsAmong labels c (List.finRange m.size) = rowsWith (fun i => (labels.get i).val) c.val :=
    fun c => List.filter_congr fun i _ => by simp only [Fin.ext_iff]
  have hcell : ∀ c : Fin k, tables.1.get c =
        (rowsWith (fun i => (labels.get i).val) c.val).length ∧
      tables.2.get c = pairSum m (rowsWith (fun i => (labels.get i).val) c.val) := fun c => by
    obtain ⟨hsizes, hintra⟩ := addRows_get labels (List.finRange m.size)
      (Vector.replicate k 0) (Vector.replicate k ((0 : Nat) : α)) c
    rw [get_replicate, hrows] at hsizes hintra
    exact ⟨by rw [hsizes, Nat.zero_add], hintra⟩
  show total ((tables.1.toList.zip tables.2.toList).map fun cell =>
    objective.worth cell.1 cell.2 m.size) = _
  refine congrArg total (List.ext_getElem (by simp) fun c h₁ h₂ => ?_)
  have hc : c < k := by simpa using h₂
  obtain ⟨hsizes, hintra⟩ := hcell ⟨c, hc⟩
  simp only [List.getElem_map, List.getElem_zip, List.getElem_range, Vector.getElem_toList]
  exact congrArg₂ (objective.worth · · m.size) hsizes hintra

end Evaluate

/-! ## Numbers without gaps -/

/-- Below a bound the labels in use are numbered in ascending order, and counted. -/
theorem renumber_spec (labels : List Nat) (bound : Nat) :
    (renumber labels bound).1.size = bound ∧
      (renumber labels bound).2 = ((List.range bound).filter (· ∈ labels)).length ∧
      ∀ label < bound, (renumber labels bound).1[label]? =
        some (if label ∈ labels then some ((List.range label).filter (· ∈ labels)).length
          else none) := by
  induction bound with
  | zero => exact ⟨rfl, rfl, fun label h => absurd h (Nat.not_lt_zero label)⟩
  | succ bound ih =>
    obtain ⟨hsize, hnext, hget⟩ := ih
    have hstep : renumber labels (bound + 1) =
        if bound ∈ labels then
          ((renumber labels bound).1.push (some (renumber labels bound).2),
            (renumber labels bound).2 + 1)
        else ((renumber labels bound).1.push none, (renumber labels bound).2) := rfl
    have hpush : ∀ entry label, label < bound + 1 →
        ((renumber labels bound).1.push entry)[label]? =
          if label = bound then some entry else (renumber labels bound).1[label]? :=
      fun entry label _ => by rw [Array.getElem?_push, hsize]
    rw [hstep, List.range_succ, List.filter_append, List.length_append]
    by_cases h : bound ∈ labels
    · rw [if_pos h]
      refine ⟨by rw [Array.size_push, hsize], by simp [hnext, h], fun label hlabel => ?_⟩
      rw [hpush _ _ hlabel]
      by_cases heq : label = bound
      · rw [if_pos heq, heq, if_pos h, hnext]
      · rw [if_neg heq, hget label (by omega)]
    · rw [if_neg h]
      refine ⟨by rw [Array.size_push, hsize], by simp [hnext, h], fun label hlabel => ?_⟩
      rw [hpush _ _ hlabel]
      by_cases heq : label = bound
      · rw [if_pos heq, heq, if_neg h]
      · rw [if_neg heq, hget label (by omega)]

theorem lt_labelBound {labels : List Nat} {label : Nat} (h : label ∈ labels) :
    label < labelBound labels := by
  rw [labelBound]
  split
  · rename_i hnone
    rw [List.max?_eq_none_iff.1 hnone] at h
    exact absurd h List.not_mem_nil
  · rename_i greatest hsome
    have := (List.max?_eq_some_iff.1 hsome).2 label h
    omega

/-- The labels in use are found in a pass over all labels up to the greatest. -/
theorem filter_range_labelBound (labels : List Nat) :
    (List.range (labelBound labels)).filter (· ∈ labels) = ascending labels :=
  eq_of_mem_iff_mem (List.pairwise_lt_range.filter _) (pairwise_ascending labels) fun label => by
    rw [List.mem_filter, List.mem_range, mem_ascending, decide_eq_true_eq]
    exact ⟨And.right, fun h => ⟨lt_labelBound h, h⟩⟩

/-- A label in use gets its place among those in use. -/
theorem renumber_getElem? {labels : List Nat} {label : Nat} (h : label ∈ labels) :
    (renumber labels (labelBound labels)).1[label]? =
      some (some ((ascending labels).idxOf label)) := by
  rw [(renumber_spec labels _).2.2 label (lt_labelBound h), if_pos h, idxOf_ascending_eq h]

theorem Partition.compact_eq_ofLabels {α : Type} [Add α] [Div α] [NatCast α]
    (m : InformationMatrix α) (labels : Fin m.size → Nat) (worth : α) :
    compact m labels worth = ofLabels m labels worth := by
  let raw := List.ofFn labels
  let number (i : Fin m.size) : Nat :=
    ((renumber raw (labelBound raw)).1[labels i]?).join.getD 0
  have hnumber : ∀ i, number i = (labelsInUse labels).idxOf (labels i) := fun i => by
    show ((renumber raw (labelBound raw)).1[labels i]?).join.getD 0 = _
    rw [renumber_getElem? (List.mem_ofFn.2 ⟨i, rfl⟩)]
    rfl
  have hnext : (renumber raw (labelBound raw)).2 = (labelsInUse labels).length := by
    rw [(renumber_spec raw _).2.1, filter_range_labelBound]
    rfl
  have hrows : ∀ (c : Nat) (hc : c < (labelsInUse labels).length),
      rowsWith number c = rowsWith labels (labelsInUse labels)[c] := fun c hc =>
    List.filter_congr fun i _ => by
      rw [hnumber, decide_eq_decide, idxOf_labelsInUse_eq_iff, List.getElem?_eq_getElem hc,
        Option.some_inj]
      exact eq_comm
  show Partition.mk (List.ofFn number) _ worth = Partition.mk _ _ worth
  refine congrArg₂ (Partition.mk · · worth) (congrArg List.ofFn (funext hnumber))
    (List.ext_getElem ?_ fun c h₁ h₂ => ?_)
  · rw [List.length_map, List.length_map, List.length_range]
    exact hnext
  · have hc : c < (labelsInUse labels).length := by simpa [labelsInUse] using h₂
    simp only [List.getElem_map, List.getElem_range]
    exact congrArg (fun members => Part.mk members.length (m.pairMean members)) (hrows c hc)

end LogAnomaly
