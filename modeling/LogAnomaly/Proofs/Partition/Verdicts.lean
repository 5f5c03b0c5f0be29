import LogAnomaly.Partition.Filter
import LogAnomaly.Proofs.Partition.Labels
import Mathlib.Data.List.Basic

/-!
# Verdicts

What a filter decides about the clusters of a partition.

* `pairMean?_rows`: the mean over rows of a matrix is always there, so that a filter always decides
  about a partition of those rows (`exists_filter`);
* `numberUsed_eq_error_iff`: numbers are refused just for a cluster without a decision, and the
  passes before leave none (`filter_cases`);
* `judge?_cases`, `getElem?_verdicts`: all that can be decided about a cluster, and what becomes of
  it in the verdicts of all (`verdicts_cases`);
* `getElem?_used_iff`: the used clusters are numbered in their order, without gaps;
* `getElem?_assignment_iff`: a row is in a used cluster if its cluster is the one that is used;
* `count_lowestScore`: just one cluster has the lowest score.
-/

namespace LogAnomaly

/-! ## Answers for all elements -/

section Answers

variable {β γ : Type} {f : β → Option γ} {l : List β} {ys : List γ}

theorem getElem?_mapM (h : l.mapM f = some ys) (i : Nat) : ys[i]? = (l[i]?).bind f := by
  induction l generalizing ys i with
  | nil =>
    obtain rfl : [] = ys := Option.some.inj h
    simp
  | cons x l ih =>
    simp only [List.mapM_cons, Option.bind_eq_bind, Option.bind_eq_some_iff] at h
    obtain ⟨y, hy, rest, hrest, hys⟩ := h
    obtain rfl : y :: rest = ys := Option.some.inj hys
    cases i with
    | zero => simp [hy]
    | succ i => simpa using ih hrest i

theorem length_mapM (h : l.mapM f = some ys) : ys.length = l.length := by
  induction l generalizing ys with
  | nil =>
    obtain rfl : [] = ys := Option.some.inj h
    rfl
  | cons x l ih =>
    simp only [List.mapM_cons, Option.bind_eq_bind, Option.bind_eq_some_iff] at h
    obtain ⟨y, -, rest, hrest, hys⟩ := h
    obtain rfl : y :: rest = ys := Option.some.inj hys
    simp [ih hrest]

theorem exists_mapM_eq_some (h : ∀ x ∈ l, (f x).isSome) : ∃ ys, l.mapM f = some ys := by
  induction l with
  | nil => exact ⟨[], rfl⟩
  | cons x l ih =>
    obtain ⟨y, hy⟩ := Option.isSome_iff_exists.1 (h x List.mem_cons_self)
    obtain ⟨rest, hrest⟩ := ih fun z hz => h z (List.mem_cons_of_mem _ hz)
    exact ⟨y :: rest, by simp [List.mapM_cons, hy, hrest]⟩

end Answers

/-! ## Means over rows -/

theorem pairs_map {β γ : Type} (f : β → γ) (l : List β) :
    pairs (l.map f) = (pairs l).map fun p => (f p.1, f p.2) := by
  induction l with
  | nil => rfl
  | cons a l ih => simp [pairs, ih]

section Means

variable {α : Type} {m : InformationMatrix α}

theorem get?_info (i j : Fin m.size) : m.info.get? i.val j.val = some (m.cell i j) := by
  have hlt := m.cell_lt i j
  rw [SquareMatrix.get?, m.size_info]
  exact Array.getElem?_eq_getElem hlt

/-- Rows of a matrix have all the cells that their mean is taken over. -/
theorem pairMean?_rows [Add α] [Div α] [NatCast α] (rows : List (Fin m.size)) :
    m.pairMean? (rows.map Fin.val) = some (m.pairMean rows) := by
  have hcells : ((pairs rows).map fun p => (p.1.val, p.2.val)).mapM
      (fun p => m.info.get? p.1 p.2) = some ((pairs rows).map fun p => m.cell p.1 p.2) := by
    rw [List.mapM_map]
    simp only [Function.comp_def, get?_info]
    exact List.mapM_pure (m := Option)
  rw [InformationMatrix.pairMean?, SquareMatrix.pairMean?, pairs_map]
  exact congrArg (·.map average) hcells

end Means

/-! ## The place of the lowest score -/

section Lowest

variable {α : Type} [LT α] [DecidableLT α]

theorem lowestFrom_lt {best : α} {place next : Nat} (h : place < next) (scores : List α) :
    lowestFrom best place next scores < next + scores.length := by
  induction scores generalizing best place next with
  | nil => exact h
  | cons score scores ih =>
    rw [List.length_cons, ← Nat.add_assoc, Nat.add_right_comm]
    unfold lowestFrom
    split
    · exact ih (Nat.lt_succ_self next)
    · exact ih (Nat.lt_succ_of_lt h)

/-- Some score is the lowest one, unless there is none. -/
theorem lowest?_eq_some {scores : List α} (h : scores ≠ []) :
    ∃ place < scores.length, lowest? scores = some place := by
  cases scores with
  | nil => exact absurd rfl h
  | cons score scores =>
    refine ⟨_, ?_, rfl⟩
    rw [List.length_cons, Nat.add_comm]
    exact lowestFrom_lt Nat.zero_lt_one scores

end Lowest

/-! ## Numbers of used clusters -/

section Numbers

variable {α : Type} {next : Nat} {judged numbered : List (Verdict α)}

/-- Numbers are refused for the first cluster without a decision, and for nothing else. -/
theorem numberUsed_eq_error_iff {e : TrainingError} :
    numberUsed next judged = .error e ↔
      ∃ v, judged.find? (·.decision = .undecided) = some v ∧ e = .undecided v.rawIndex := by
  induction judged generalizing next with
  | nil => simp [numberUsed]
  | cons first judged ih =>
    have hmap : ∀ (after : Nat) (f : List (Verdict α) → List (Verdict α)),
        (numberUsed after judged).map f = .error e ↔ numberUsed after judged = .error e := by
      intro after f
      cases numberUsed after judged <;> simp [Except.map]
    rw [numberUsed]
    cases hd : first.decision with
    | undecided => simp [hd, eq_comm]
    | used | tooSmall | tooNoisy | lowestScore =>
      rw [hmap, ih, List.find?_cons_of_neg (by simp [hd])]

/-- A used cluster, and one that is left without a decision. -/
example : numberUsed 0 [(⟨0, 2, 1, .used, none⟩ : Verdict Nat), ⟨1, 2, 1, .undecided, none⟩] =
    .error (.undecided 1) ∧ (TrainingError.undecided 1).message =
      "internal invariant violated: cluster 1 has no status after filtering" :=
  ⟨rfl, rfl⟩

theorem exists_numberUsed (next : Nat) (h : ∀ v ∈ judged, v.decision ≠ .undecided) :
    ∃ numbered, numberUsed next judged = .ok numbered := by
  cases hresult : numberUsed next judged with
  | ok numbered => exact ⟨numbered, rfl⟩
  | error e =>
    obtain ⟨v, hv, -⟩ := numberUsed_eq_error_iff.1 hresult
    exact absurd (by simpa using List.find?_some hv) (h v (List.mem_of_find?_eq_some hv))

/-- A used cluster takes the next number, and any other one takes none. -/
theorem numberUsed_cons {first : Verdict α} (h : numberUsed next (first :: judged) = .ok numbered) :
    first.decision ≠ .undecided ∧ ∃ number after rest, numberUsed after judged = .ok rest ∧
      numbered = { first with usedIndex := number } :: rest ∧
      (first.decision = .used ∧ number = some next ∧ after = next + 1 ∨
        first.decision ≠ .used ∧ number = none ∧ after = next) := by
  have hmap : ∀ (after : Nat) (v : Verdict α), (numberUsed after judged).map (v :: ·) = .ok numbered →
      ∃ rest, numberUsed after judged = .ok rest ∧ numbered = v :: rest := by
    intro after v hv
    cases hrest : numberUsed after judged with
    | error e =>
      rw [hrest] at hv
      cases hv
    | ok rest =>
      rw [hrest] at hv
      exact ⟨rest, rfl, (Except.ok.inj hv).symm⟩
  rw [numberUsed] at h
  cases hd : first.decision with
  | undecided => simp [hd] at h
  | used =>
    rw [hd] at h
    obtain ⟨rest, hrest, hnumbered⟩ := hmap _ _ h
    exact ⟨nofun, _, _, rest, hrest, hnumbered, .inl ⟨rfl, rfl, rfl⟩⟩
  | tooSmall | tooNoisy | lowestScore =>
    rw [hd] at h
    obtain ⟨rest, hrest, hnumbered⟩ := hmap _ _ h
    exact ⟨nofun, _, _, rest, hrest, hnumbered, .inr ⟨nofun, rfl, rfl⟩⟩

/-- Numbering changes nothing but the numbers, and only used clusters get one. -/
theorem getElem?_numberUsed (h : numberUsed next judged = .ok numbered) {c : Nat} {v : Verdict α}
    (hv : numbered[c]? = some v) :
    v.decision ≠ .undecided ∧ (v.decision = .used ↔ v.usedIndex.isSome) ∧
      ∃ old, judged[c]? = some old ∧ v = { old with usedIndex := v.usedIndex } := by
  induction judged generalizing next numbered c with
  | nil =>
    obtain rfl := Except.ok.inj h
    cases hv
  | cons first judged ih =>
    obtain ⟨hdecided, number, after, rest, hrest, rfl, hnumber⟩ := numberUsed_cons h
    cases c with
    | zero =>
      obtain rfl := Option.some.inj hv
      refine ⟨hdecided, ?_, first, rfl, rfl⟩
      rcases hnumber with ⟨hused, rfl, -⟩ | ⟨hnot, rfl, -⟩
      · simp [hused]
      · simp [hnot]
    | succ c => exact ih hrest hv

theorem length_numberUsed (h : numberUsed next judged = .ok numbered) :
    numbered.length = judged.length := by
  induction judged generalizing next numbered with
  | nil =>
    obtain rfl := Except.ok.inj h
    rfl
  | cons first judged ih =>
    obtain ⟨-, number, after, rest, hrest, rfl, -⟩ := numberUsed_cons h
    rw [List.length_cons, List.length_cons, ih hrest]

/-- The used clusters are numbered one after the other. -/
theorem usedIndex_numberUsed (h : numberUsed next judged = .ok numbered) {k : Nat} {v : Verdict α}
    (hv : (numbered.filter (·.decision = .used))[k]? = some v) : v.usedIndex = some (next + k) := by
  induction judged generalizing next numbered k with
  | nil =>
    obtain rfl := Except.ok.inj h
    cases hv
  | cons first judged ih =>
    obtain ⟨-, number, after, rest, hrest, rfl, ⟨hused, rfl, rfl⟩ | ⟨hnot, rfl, rfl⟩⟩ :=
      numberUsed_cons h
    · rw [List.filter_cons_of_pos (by simpa using hused)] at hv
      cases k with
      | zero =>
        obtain rfl := Option.some.inj hv
        rfl
      | succ k =>
        rw [ih hrest hv]
        exact congrArg some (by omega)
    · rw [List.filter_cons_of_neg (by simpa using hnot)] at hv
      exact ih hrest hv

/-- Marking changes nothing but the decision about the lowest cluster. -/
theorem getElem?_markLowest (lowest : Option Nat) (judged : List (Verdict α)) (c : Nat) :
    (markLowest lowest judged)[c]? = (judged[c]?).map fun v =>
      if lowest = some c then { v with decision := .lowestScore } else v := by
  cases lowest with
  | none => simp [markLowest]
  | some place =>
    rw [markLowest, List.getElem?_modify]
    simp

theorem decided_markLowest (lowest : Option Nat) (h : ∀ v ∈ judged, v.decision ≠ .undecided) :
    ∀ v ∈ markLowest lowest judged, v.decision ≠ .undecided := by
  intro v hv
  obtain ⟨c, hc⟩ := List.getElem?_of_mem hv
  rw [getElem?_markLowest, Option.map_eq_some_iff] at hc
  obtain ⟨old, hold, rfl⟩ := hc
  split
  · exact nofun
  · exact h old (List.mem_of_getElem? hold)

theorem length_markLowest (lowest : Option Nat) (judged : List (Verdict α)) :
    (markLowest lowest judged).length = judged.length := by
  cases lowest <;> simp [markLowest]

end Numbers

/-! ## The verdicts about a partition -/

section Filter

variable {α : Type} [LT α] [DecidableLT α] [Add α] [Mul α] [Div α] [NatCast α]
  {m : InformationMatrix α} {rule : FilterRule α} {p : Partition α} {f : Filtered α}

/-- Whether a filter finds clusters with a mean too noisy: it lies below the multiple of the overall
mean, if one is set. -/
def FilterRule.FindsNoisy (rule : FilterRule α) (m : InformationMatrix α) (mean : α) : Prop :=
  ∃ ratio, rule.minAvgInfoRatio = some ratio ∧ mean < ratio * m.overallMean

/-- All that can be decided about a cluster on its own. -/
theorem judge?_cases {size index : Nat} {v : Verdict α}
    (h : judge? m rule p (.undecided index size) = some v) :
    v.rawIndex = index ∧ v.size = size ∧
      ((v.decision = .tooSmall ∧ size < rule.minClusterSize) ∨
        (rule.minClusterSize ≤ size ∧ m.pairMean? (p.members index) = some v.meanInfo ∧
          ((v.decision = .tooNoisy ∧ rule.FindsNoisy m v.meanInfo) ∨
            (v.decision = .used ∧ ¬ rule.FindsNoisy m v.meanInfo)))) := by
  unfold judge? at h
  split at h
  · rename_i hsize
    obtain rfl := Option.some.inj h
    exact ⟨rfl, rfl, .inl ⟨rfl, hsize⟩⟩
  · rename_i hsize
    obtain ⟨mean, hmean, rfl⟩ := Option.map_eq_some_iff.1 h
    refine ⟨rfl, rfl, .inr ⟨Nat.le_of_not_lt hsize, hmean, ?_⟩⟩
    unfold FilterRule.FindsNoisy
    cases rule.minAvgInfoRatio with
    | none => exact .inr ⟨rfl, by simp⟩
    | some ratio => by_cases hnoisy : mean < ratio * m.overallMean <;> simp [hnoisy]

omit [LT α] [DecidableLT α] [Add α] [Mul α] [Div α] in
theorem getElem?_fresh (p : Partition α) (c : Nat) :
    p.fresh[c]? = (p.parts[c]?).map fun part => .undecided c part.size := by
  rw [Partition.fresh, List.getElem?_map, List.getElem?_zipIdx]
  cases p.parts[c]? <;> simp

/-- A filter stops only at a cluster with a member that the matrix lacks. Otherwise it judges every
cluster, marks the one with the lowest score and numbers the used ones: none is left without a
decision then. -/
theorem filter_cases (m : InformationMatrix α) (rule : FilterRule α) (p : Partition α) :
    ((∃ v ∈ p.fresh, judge? m rule p v = none) ∧ p.filter m rule = .error .outOfRange) ∨
    ∃ judged f, judged.length = p.parts.length ∧
      (∀ c, judged[c]? = (p.parts[c]?).bind fun part => judge? m rule p (.undecided c part.size)) ∧
      numberUsed 0 (markLowest (lowest? (p.parts.map (·.score))) judged) = .ok f.verdicts ∧
      f.assignment = (p.assignment.map fun c => (f.verdicts[c]?).bind (·.usedIndex)) ∧
      p.filter m rule = .ok f := by
  cases hjudged : p.fresh.mapM (judge? m rule p) with
  | none =>
    refine .inl ⟨?_, by rw [Partition.filter, hjudged]⟩
    by_contra hall
    obtain ⟨judged, hsome⟩ := exists_mapM_eq_some (f := judge? m rule p) (l := p.fresh) fun v hv =>
      Option.isSome_iff_ne_none.2 fun hnone => hall ⟨v, hv, hnone⟩
    rw [hjudged] at hsome
    cases hsome
  | some judged =>
    have hget : ∀ c, judged[c]? =
        (p.parts[c]?).bind fun part => judge? m rule p (.undecided c part.size) := fun c => by
      rw [getElem?_mapM hjudged, getElem?_fresh, Option.bind_map]
      rfl
    have hdecided : ∀ v ∈ judged, v.decision ≠ .undecided := fun v hv => by
      obtain ⟨c, hc⟩ := List.getElem?_of_mem hv
      rw [hget, Option.bind_eq_some_iff] at hc
      obtain ⟨part, -, hjudge⟩ := hc
      obtain ⟨-, -, ⟨hd, -⟩ | ⟨-, -, ⟨hd, -⟩ | ⟨hd, -⟩⟩⟩ := judge?_cases hjudge <;> simp [hd]
    obtain ⟨verdicts, hverdicts⟩ := exists_numberUsed 0
      (decided_markLowest (lowest? (p.parts.map (·.score))) hdecided)
    have hlen : judged.length = p.parts.length := by
      simpa [Partition.fresh] using length_mapM hjudged
    refine .inr ⟨judged, ⟨verdicts, p.assignment.map fun c => (verdicts[c]?).bind (·.usedIndex)⟩,
      hlen, hget, hverdicts, rfl, ?_⟩
    rw [Partition.filter, hjudged]
    simp only [hverdicts]
    rfl

theorem filter_eq_ok (h : p.filter m rule = .ok f) :
    ∃ judged, judged.length = p.parts.length ∧
      (∀ c, judged[c]? = (p.parts[c]?).bind fun part => judge? m rule p (.undecided c part.size)) ∧
      numberUsed 0 (markLowest (lowest? (p.parts.map (·.score))) judged) = .ok f.verdicts ∧
      f.assignment = p.assignment.map fun c => (f.verdicts[c]?).bind (·.usedIndex) := by
  rcases filter_cases m rule p with ⟨-, hstopped⟩ | ⟨judged, f', hlen, hget, hnumber, hassign, hok⟩
  · rw [hstopped] at h
    cases h
  · obtain rfl := Except.ok.inj (hok.symm.trans h)
    exact ⟨judged, hlen, hget, hnumber, hassign⟩

/-- A filter never finds a cluster that it left without a decision. -/
theorem filter_ne_refused (m : InformationMatrix α) (rule : FilterRule α) (p : Partition α)
    (e : TrainingError) : p.filter m rule ≠ .error (.refused e) := by
  rcases filter_cases m rule p with ⟨-, hstopped⟩ | ⟨-, f, -, -, -, -, hok⟩
  · rw [hstopped]
    exact nofun
  · rw [hok]
    exact nofun

theorem Partition.mem_members_iff {α : Type} {p : Partition α} {c i : Nat} :
    i ∈ p.members c ↔ p.assignment[i]? = some c := by
  simp [members, List.mem_zipIdx_iff_getElem?]

/-- A filter decides about a partition that has no more rows than the matrix. -/
theorem exists_filter (rule : FilterRule α) (hfits : p.assignment.length ≤ m.size) :
    ∃ f, p.filter m rule = .ok f := by
  rcases filter_cases m rule p with ⟨⟨v, -, hnone⟩, -⟩ | ⟨-, f, -, -, -, -, hok⟩
  · have hrow : ∀ i ∈ p.members v.rawIndex, i < m.size := fun i hi => by
      obtain ⟨hlt, -⟩ := List.getElem?_eq_some_iff.1 (Partition.mem_members_iff.1 hi)
      exact Nat.lt_of_lt_of_le hlt hfits
    have hrows : p.members v.rawIndex =
        ((p.members v.rawIndex).pmap Fin.mk hrow).map Fin.val := by
      rw [List.map_pmap, List.pmap_eq_map, List.map_id']
    rw [judge?, hrows, pairMean?_rows] at hnone
    split at hnone <;> cases hnone
  · exact ⟨f, hok⟩

/-- A verdict is what was decided about the cluster on its own, but for the mark on the one with the
lowest score and the number of a used one. -/
theorem getElem?_verdicts (h : p.filter m rule = .ok f) {c : Nat} {v : Verdict α}
    (hv : f.verdicts[c]? = some v) :
    ∃ part own, p.parts[c]? = some part ∧
      judge? m rule p (.undecided c part.size) = some own ∧
      v.decision ≠ .undecided ∧ (v.decision = .used ↔ v.usedIndex.isSome) ∧
      v = { own with
        decision := if lowest? (p.parts.map (·.score)) = some c then .lowestScore else own.decision
        usedIndex := v.usedIndex } := by
  obtain ⟨judged, -, hjudged, hverdicts, -⟩ := filter_eq_ok h
  obtain ⟨hdecided, hused, marked, hmarked, hnumbered⟩ := getElem?_numberUsed hverdicts hv
  rw [getElem?_markLowest, hjudged] at hmarked
  obtain ⟨own, hown, rfl⟩ := Option.map_eq_some_iff.1 hmarked
  obtain ⟨part, hpart, hjudge⟩ := Option.bind_eq_some_iff.1 hown
  refine ⟨part, own, hpart, hjudge, hdecided, hused, hnumbered.trans ?_⟩
  split <;> rfl

/-- What a verdict says about its cluster. -/
theorem verdicts_cases (h : p.filter m rule = .ok f) {c : Nat} {v : Verdict α}
    (hv : f.verdicts[c]? = some v) :
    v.rawIndex = c ∧ ∃ part, p.parts[c]? = some part ∧ v.size = part.size ∧
      (v.decision = .lowestScore ↔ lowest? (p.parts.map (·.score)) = some c) ∧
      (v.decision = .used →
        rule.minClusterSize ≤ v.size ∧ m.pairMean? (p.members c) = some v.meanInfo) := by
  obtain ⟨part, own, hpart, hjudge, -, -, hv⟩ := getElem?_verdicts h hv
  obtain ⟨hindex, hsize, hcases⟩ := judge?_cases hjudge
  rw [hv]
  refine ⟨hindex, part, hpart, hsize, ?_⟩
  by_cases hc : lowest? (p.parts.map (·.score)) = some c
  · simp [hc]
  · simp only [hc, if_false, iff_false, hsize]
    rcases hcases with ⟨hd, -⟩ | ⟨hle, hmean, ⟨hd, -⟩ | ⟨hd, -⟩⟩
    · simp [hd]
    · simp [hd]
    · exact ⟨by simp [hd], fun _ => ⟨hle, hmean⟩⟩

theorem length_verdicts (h : p.filter m rule = .ok f) : f.verdicts.length = p.parts.length := by
  obtain ⟨judged, hlen, -, hverdicts, -⟩ := filter_eq_ok h
  rw [length_numberUsed hverdicts, length_markLowest, hlen]

/-- There is one verdict about each cluster, in their order. -/
theorem rawIndex_verdicts (h : p.filter m rule = .ok f) :
    f.verdicts.map (·.rawIndex) = List.range p.parts.length := by
  refine List.ext_getElem (by simp [length_verdicts h]) fun c hc _ => ?_
  rw [List.length_map] at hc
  rw [List.getElem_map, List.getElem_range]
  exact (verdicts_cases h (List.getElem?_eq_getElem hc)).1

/-- A verdict stands at the place of its cluster. -/
theorem getElem?_rawIndex (h : p.filter m rule = .ok f) {v : Verdict α} (hv : v ∈ f.verdicts) :
    f.verdicts[v.rawIndex]? = some v := by
  obtain ⟨c, hc⟩ := List.getElem?_of_mem hv
  rwa [(verdicts_cases h hc).1]

/-- The used clusters are numbered in their order, without gaps. -/
theorem getElem?_used_iff (h : p.filter m rule = .ok f) {k : Nat} {v : Verdict α} :
    f.used[k]? = some v ↔ v ∈ f.verdicts ∧ v.usedIndex = some k := by
  obtain ⟨judged, -, -, hverdicts, -⟩ := filter_eq_ok h
  have hnumber : ∀ {k : Nat} {v : Verdict α}, f.used[k]? = some v → v.usedIndex = some k := by
    intro k v hv
    rw [usedIndex_numberUsed hverdicts hv, Nat.zero_add]
  constructor
  · intro hv
    exact ⟨(List.mem_filter.1 (List.mem_of_getElem? hv)).1, hnumber hv⟩
  · rintro ⟨hmem, hk⟩
    obtain ⟨c, hc⟩ := List.getElem?_of_mem hmem
    obtain ⟨-, hused, -⟩ := getElem?_numberUsed hverdicts hc
    have hdecision : v.decision = .used := hused.2 (Option.isSome_iff_exists.2 ⟨k, hk⟩)
    have hused : v ∈ f.used := List.mem_filter.2 ⟨hmem, by simpa using hdecision⟩
    obtain ⟨j, hj⟩ := List.getElem?_of_mem hused
    obtain rfl : j = k := Option.some.inj ((hnumber hj).symm.trans hk)
    exact hj

/-- A row is in a used cluster if that is what its cluster became. -/
theorem getElem?_assignment_iff (h : p.filter m rule = .ok f) {i k : Nat} :
    f.assignment[i]? = some (some k) ↔
      ∃ v, f.used[k]? = some v ∧ p.assignment[i]? = some v.rawIndex := by
  obtain ⟨-, -, -, -, hassign⟩ := filter_eq_ok h
  rw [hassign, List.getElem?_map, Option.map_eq_some_iff]
  constructor
  · rintro ⟨raw, hraw, hk⟩
    obtain ⟨v, hv, hindex⟩ := Option.bind_eq_some_iff.1 hk
    refine ⟨v, (getElem?_used_iff h).2 ⟨List.mem_of_getElem? hv, hindex⟩, ?_⟩
    rw [(verdicts_cases h hv).1]
    exact hraw
  · rintro ⟨v, hv, hraw⟩
    obtain ⟨hmem, hindex⟩ := (getElem?_used_iff h).1 hv
    exact ⟨v.rawIndex, hraw, by rw [getElem?_rawIndex h hmem]; exact hindex⟩

/-- The numbers of the used clusters ascend. -/
theorem pairwise_rawIndex_used (h : p.filter m rule = .ok f) :
    (f.used.map (·.rawIndex)).Pairwise (· < ·) := by
  have hsub : (f.used.map (·.rawIndex)).Sublist (f.verdicts.map (·.rawIndex)) :=
    List.filter_sublist.map _
  rw [rawIndex_verdicts h] at hsub
  exact List.pairwise_lt_range.sublist hsub

/-- Just one cluster has the lowest score, if there are any. -/
theorem count_lowestScore (h : p.filter m rule = .ok f) (hp : p.parts ≠ []) :
    f.count .lowestScore = 1 := by
  have hscores : p.parts.map (·.score) ≠ [] := by simpa using hp
  obtain ⟨place, hplace, hlowest⟩ := lowest?_eq_some hscores
  rw [List.length_map] at hplace
  have hdecided : ∀ v ∈ f.verdicts,
      decide (v.decision = .lowestScore) = (v.rawIndex == place) := fun v hv => by
    obtain ⟨-, -, -, -, hiff, -⟩ := verdicts_cases h (getElem?_rawIndex h hv)
    rw [hlowest, Option.some_inj] at hiff
    rw [Bool.eq_iff_iff, decide_eq_true_iff, beq_iff_eq, hiff]
    exact eq_comm
  calc f.count .lowestScore
      = ((f.verdicts.map (·.rawIndex)).filter (· == place)).length := by
        rw [Filtered.count, Filtered.decidedAs, List.filter_congr hdecided, List.filter_map,
          List.length_map]
        rfl
    _ = (List.range p.parts.length).count place := by
        rw [rawIndex_verdicts h, List.filter_beq, List.length_replicate]
    _ = 1 := List.count_eq_one_of_mem List.nodup_range (List.mem_range.2 hplace)

end Filter

/-! ## Partitions of labels -/

section OfLabels

variable {α : Type} [LT α] [DecidableLT α] [Add α] [Mul α] [Div α] [NatCast α]
  {m : InformationMatrix α} {rule : FilterRule α} {labels : Fin m.size → Nat} {worth : α}
  {f : Filtered α}

/-- What is known of a used cluster is the number of the rows of its label and their mean. -/
theorem used_ofLabels (h : (Partition.ofLabels m labels worth).filter m rule = .ok f) {k : Nat}
    {v : Verdict α} (hv : f.used[k]? = some v) :
    ∃ label, (labelsInUse labels)[v.rawIndex]? = some label ∧
      rule.minClusterSize ≤ v.size ∧ v.size = (rowsWith labels label).length ∧
      v.meanInfo = m.pairMean (rowsWith labels label) := by
  have hmem : v ∈ f.verdicts := ((getElem?_used_iff h).1 hv).1
  have hdecision : v.decision = .used := by
    simpa using (List.mem_filter.1 (List.mem_of_getElem? hv)).2
  obtain ⟨-, part, hpart, hsize, -, hused⟩ := verdicts_cases h (getElem?_rawIndex h hmem)
  obtain ⟨hmin, hmean⟩ := hused hdecision
  rw [Partition.getElem?_parts_ofLabels, Option.map_eq_some_iff] at hpart
  obtain ⟨label, hlabel, rfl⟩ := hpart
  rw [Partition.members_ofLabels hlabel, pairMean?_rows] at hmean
  exact ⟨label, hlabel, hmin, hsize, (Option.some.inj hmean).symm⟩

end OfLabels

end LogAnomaly
