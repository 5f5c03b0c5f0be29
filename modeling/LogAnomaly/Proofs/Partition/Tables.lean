import LogAnomaly.Partition.Run
import LogAnomaly.Proofs.Partition.Evaluate
import LogAnomaly.Proofs.Partition.Sums
import Mathlib.Algebra.BigOperators.Field
import Mathlib.Algebra.Order.Field.Basic

/-!
# The tables of a search

A search looks at its tables in place of the matrix. In exact arithmetic they never drift away from
it.

* `SearchState.Exact`: the tables tell the sizes and the sums that belong to the labels;
* `exact_ofLabels`, `Exact.move`: they do so at the start of a run and after every move;
* `gain_eq`: so what a move is said to gain is what it gains.
-/

namespace LogAnomaly.SearchState

open Finset

/-! ## Cells of tables -/

section Cells

variable {k : Nat}

theorem addAt_get {β : Type} [AddMonoid β] (table : Vector β k) (place c : Fin k) (x : β) :
    (addAt table place x).get c = table.get c + if place = c then x else 0 := by
  by_cases h : place = c
  · rw [if_pos h, h, addAt_get_self]
  · rw [if_neg h, addAt_get_of_ne table h, add_zero]

theorem takeAt_get {β : Type} [Sub β] (table : Vector β k) (place c : Fin k) (x : β) :
    (takeAt table place x).get c = if place = c then table.get c - x else table.get c := by
  show (table.set place (table[place] - x))[c] = if place = c then table[c] - x else table[c]
  by_cases h : place = c
  · simp [h]
  · have hv : place.val ≠ c.val := fun hv => h (Fin.ext hv)
    simp [h, hv]

/-- What a table tells after something has gone from one place to another one. -/
theorem addAt_takeAt_get {β : Type} [AddMonoid β] [Sub β] (table : Vector β k)
    {source target : Fin k} (hne : target ≠ source) (x y : β) (c : Fin k) :
    (addAt (takeAt table source x) target y).get c =
      if c = target then table.get c + y else if c = source then table.get c - x
      else table.get c := by
  rw [addAt_get, takeAt_get]
  by_cases ht : c = target
  · subst ht
    rw [if_pos rfl, if_pos rfl, if_neg (Ne.symm hne)]
  · rw [if_neg ht, if_neg (Ne.symm ht), add_zero]
    exact if_congr eq_comm rfl rfl

/-- Amounts that are added one by one to the places of a table: each place gets what belongs
there. -/
theorem foldl_addAt {β : Type} [AddCommMonoid β] {n : Nat} (place : Fin n → Fin k)
    (amount : Fin n → β) (elements : List (Fin n)) (table : Vector β k) (c : Fin k) :
    (elements.foldl (fun table e => addAt table (place e) (amount e)) table).get c =
      table.get c + (elements.map fun e => if place e = c then amount e else 0).sum := by
  induction elements generalizing table with
  | nil => simp
  | cons e elements ih =>
    rw [List.foldl_cons, ih, addAt_get, List.map_cons, List.sum_cons, add_assoc]

end Cells

/-! ## Exact tables -/

variable {α : Type} [Field α] {n k : Nat}

/-- The label of an element. -/
def label (s : SearchState α n k) (e : Fin n) : Fin k := s.labels.get e

/-- The tables tell the sizes of the clusters, the sums over the pairs inside them and the sums of
each element over the other members of them. -/
structure Exact (cell : Fin n → Fin n → α) (s : SearchState α n k) : Prop where
  sizes_eq : ∀ c, s.sizes.get c = (labelled s.label c).card
  intra_eq : ∀ c, s.intra.get c = pairTotal cell (labelled s.label c)
  links_eq : ∀ e c, (s.links.get e).get c = ∑ j ∈ (labelled s.label c).erase e, cell e j

variable {cell : Fin n → Fin n → α} {s : SearchState α n k} {e : Fin n} {target : Fin k}

/-- The cluster of an element has a member, the element itself. -/
theorem Exact.sizes_pos (h : s.Exact cell) (e : Fin n) : 1 ≤ s.sizes.get (s.label e) := by
  rw [h.sizes_eq]
  exact card_pos.2 ⟨e, mem_labelled.2 rfl⟩

/-! ## At the start of a run -/

theorem linksOf_get (cell : Fin n → Fin n → α) (labels : Vector (Fin k) n) (e : Fin n)
    (c : Fin k) :
    (linksOf cell labels e).get c =
      ∑ j ∈ (labelled labels.get c).erase e, cell e j := by
  have hskip : linksOf cell labels e = ((List.finRange n).filter (· ≠ e)).foldl
      (fun row j => addAt row (labels.get j) (cell e j))
        (Vector.replicate k ((0 : Nat) : α)) := by
    rw [List.foldl_filter]
    refine List.foldl_ext _ _ _ fun row j _ => ?_
    by_cases h : j = e
    · simp [h]
    · rw [if_neg h, if_pos (by simpa using h)]
      rfl
  have hset : (labelled labels.get c).erase e =
      (((List.finRange n).filter (· ≠ e)).toFinset).filter fun j => labels.get j = c := by
    ext j
    simp
  have hnodup : ((List.finRange n).filter (· ≠ e)).Nodup := (List.nodup_finRange n).filter _
  rw [hskip, foldl_addAt labels.get, hset, sum_filter, List.sum_toFinset _ hnodup, get_replicate,
    Nat.cast_zero, zero_add]

theorem exact_ofLabels [LinearOrder α] [IsStrictOrderedRing α]
    (hsymm : ∀ i j, cell i j = cell j i) (labels : Vector (Fin k) n) :
    (ofLabels cell labels).Exact cell where
  sizes_eq c := by
    show ((List.finRange n).foldl (fun sizes e => addAt sizes (labels.get e) 1)
      (Vector.replicate k 0)).get c = _
    rw [foldl_addAt labels.get, ← Fin.sum_univ_def, ← sum_filter, ← card_eq_sum_ones, get_replicate,
      Nat.zero_add]
    rfl
  links_eq e c := by
    show ((Vector.ofFn (linksOf cell labels)).get e).get c = _
    rw [get_ofFn]
    exact linksOf_get cell labels e c
  intra_eq c := by
    let links := Vector.ofFn (linksOf cell labels)
    have hrow : ∀ e, (links.get e).get (labels.get e) =
        ∑ j ∈ (labelled labels.get (labels.get e)).erase e, cell e j := fun e => by
      rw [get_ofFn]
      exact linksOf_get cell labels e (labels.get e)
    show ((List.finRange n).foldl (fun intra e => addAt intra (labels.get e)
      ((links.get e).get (labels.get e) / ((2 : Nat) : α)))
      (Vector.replicate k ((0 : Nat) : α))).get c = _
    rw [foldl_addAt labels.get, ← Fin.sum_univ_def, ← sum_filter]
    -- every pair is counted twice, once in the row of each of its elements
    have htwice : ∑ e ∈ labelled labels.get c, (links.get e).get (labels.get e) =
        pairTotal cell (labelled labels.get c) + pairTotal cell (labelled labels.get c) := by
      rw [← sum_erase_eq_pairTotal hsymm]
      refine sum_congr rfl fun e he => ?_
      rw [hrow, mem_labelled.1 he]
    rw [← sum_div]
    change (Vector.replicate k ((0 : Nat) : α)).get c +
      (∑ e ∈ labelled labels.get c, (links.get e).get (labels.get e)) / ((2 : Nat) : α) =
      pairTotal cell (labelled labels.get c)
    have htwo : ((2 : Nat) : α) = 2 := Nat.cast_ofNat
    rw [htwice, ← two_mul, htwo, mul_div_cancel_left₀ _ two_ne_zero, get_replicate, Nat.cast_zero,
      zero_add]

/-! ## After a move -/

theorem label_move (cell : Fin n → Fin n → α) (s : SearchState α n k) (e : Fin n)
    (target : Fin k) : (s.move cell e target).label = Function.update s.label e target := by
  funext i
  show (s.labels.set e target)[i] = _
  by_cases h : i = e
  · simp [h]
  · have hv : e.val ≠ i.val := fun hv => h (Fin.ext hv.symm)
    rw [Function.update_of_ne h]
    exact Vector.getElem_set_ne _ _ hv

theorem links_move_self (cell : Fin n → Fin n → α) (s : SearchState α n k) (e : Fin n)
    (target : Fin k) : (s.move cell e target).links.get e = s.links.get e := by
  show (s.move cell e target).links[e] = s.links[e]
  simp [move]

theorem links_move_of_ne (cell : Fin n → Fin n → α) (s : SearchState α n k) (e : Fin n)
    (target : Fin k) {j : Fin n} (h : j ≠ e) :
    (s.move cell e target).links.get j =
      addAt (takeAt (s.links.get j) (s.label e) (cell j e)) target (cell j e) := by
  have hv : j.val ≠ e.val := fun hv => h (Fin.ext hv)
  show (s.move cell e target).links[j] =
    addAt (takeAt s.links[j] s.labels[e] (cell j e)) target (cell j e)
  simp [move, hv]

/-- A move keeps the tables exact. The row of the element itself stays as it is: an element does not
count in its own sums. -/
theorem Exact.move (h : s.Exact cell) (hsymm : ∀ i j, cell i j = cell j i)
    (hne : target ≠ s.label e) : (s.move cell e target).Exact cell := by
  have hmem : e ∈ labelled s.label (s.label e) := mem_labelled.2 rfl
  have hnot : e ∉ labelled s.label target := fun he => hne (mem_labelled.1 he).symm
  have hclusters : ∀ c, labelled (s.move cell e target).label c =
      if c = target then insert e (labelled s.label c)
      else if c = s.label e then (labelled s.label c).erase e
      else labelled s.label c := fun c => by
    rw [label_move, labelled_update_eq_ite]
  refine ⟨fun c => ?_, fun c => ?_, fun j c => ?_⟩
  · show (addAt (takeAt s.sizes (s.label e) 1) target 1).get c = _
    rw [addAt_takeAt_get _ hne, hclusters, h.sizes_eq]
    split_ifs with ht hs
    · exact (card_insert_of_notMem (ht ▸ hnot)).symm
    · exact (card_erase_of_mem (hs ▸ hmem)).symm
    · rfl
  · show (addAt (takeAt s.intra (s.label e) ((s.links.get e).get (s.label e))) target
      ((s.links.get e).get target)).get c = _
    rw [addAt_takeAt_get _ hne, hclusters, h.intra_eq, h.links_eq, h.links_eq,
      erase_eq_of_notMem hnot]
    split_ifs with ht hs
    · subst ht
      exact (pairTotal_insert hsymm hnot).symm
    · subst hs
      exact (pairTotal_erase hsymm hmem).symm
    · rfl
  · by_cases hj : j = e
    · subst hj
      rw [links_move_self, hclusters, h.links_eq]
      split_ifs with ht hs
      · rw [erase_insert_eq_erase]
      · rw [erase_idem]
      · rfl
    · rw [links_move_of_ne _ _ _ _ hj, addAt_takeAt_get _ hne, hclusters, h.links_eq]
      split_ifs with ht hs
      · have hfresh : e ∉ (labelled s.label c).erase j := fun he =>
          hnot (ht ▸ mem_of_mem_erase he)
        rw [erase_insert_of_ne (Ne.symm hj), sum_insert hfresh, add_comm]
      · subst hs
        rw [erase_right_comm, sum_erase_eq_sub (mem_erase.2 ⟨Ne.symm hj, hmem⟩)]
      · rfl

/-! ## What a move gains -/

section Gain

variable {objective : Objective α} {m : InformationMatrix α} {s : SearchState α m.size k}
  {e : Fin m.size} {target : Fin k}

/-- What the cluster of an element gives more without it. -/
theorem Exact.removalGain_eq (h : s.Exact m.cell) (hsymm : ∀ i j, m.cell i j = m.cell j i)
    (objective : Objective α) (e : Fin m.size) :
    s.removalGain objective e =
      groupWorth objective m ((labelled s.label (s.label e)).erase e) -
        groupWorth objective m (labelled s.label (s.label e)) := by
  have hmem : e ∈ labelled s.label (s.label e) := mem_labelled.2 rfl
  show objective.worth (s.sizes.get (s.label e) - 1)
      (s.intra.get (s.label e) - (s.links.get e).get (s.label e)) m.size -
    objective.worth (s.sizes.get (s.label e)) (s.intra.get (s.label e)) m.size = _
  rw [h.sizes_eq, h.intra_eq, h.links_eq, ← pairTotal_erase hsymm hmem,
    ← card_erase_of_mem hmem]
  rfl

/-- What another cluster gives more with the element. -/
theorem Exact.additionGain_eq (h : s.Exact m.cell) (hsymm : ∀ i j, m.cell i j = m.cell j i)
    (objective : Objective α) (hne : target ≠ s.label e) :
    s.additionGain objective e target =
      groupWorth objective m (insert e (labelled s.label target)) -
        groupWorth objective m (labelled s.label target) := by
  have hnot : e ∉ labelled s.label target := fun he => hne (mem_labelled.1 he).symm
  show objective.worth (s.sizes.get target + 1)
      (s.intra.get target + (s.links.get e).get target) m.size -
    objective.worth (s.sizes.get target) (s.intra.get target) m.size = _
  rw [h.sizes_eq, h.intra_eq, h.links_eq, erase_eq_of_notMem hnot, ← pairTotal_insert hsymm hnot,
    ← card_insert_of_notMem hnot]
  rfl

/-- What a move is said to gain is what the labels are worth more after it: only the two clusters
that it touches give something else. -/
theorem Exact.gain_eq (h : s.Exact m.cell) (hsymm : ∀ i j, m.cell i j = m.cell j i)
    (objective : Objective α) (hne : target ≠ s.label e) :
    s.gain objective e target =
      labelsWorth objective m k (fun i => (Function.update s.label e target i).val) -
        labelsWorth objective m k (fun i => (s.label i).val) := by
  rw [labelsWorth_eq_sum, labelsWorth_eq_sum, ← sum_sub_distrib,
    Fintype.sum_eq_add (s.label e) target (Ne.symm hne), labelled_update,
    labelled_update_of_ne _ _ (Ne.symm hne), gain, h.removalGain_eq hsymm,
    h.additionGain_eq hsymm objective hne]
  rintro c ⟨hs, ht⟩
  have hnot : e ∉ labelled s.label c := fun he => hs (mem_labelled.1 he).symm
  rw [labelled_update_of_ne _ _ ht, erase_eq_of_notMem hnot, sub_self]

end Gain

/-! ## Trials -/

section Trials

variable [LinearOrder α] {objective : Objective α}

omit [Field α] in
/-- The best of several moves is one of them. -/
theorem foldl_better_eq_some {gain : Fin k → α} {targets : List (Fin k)}
    {best : Option (Move α k)} {move : Move α k}
    (h : targets.foldl (fun best target => better best ⟨target, gain target⟩) best = some move) :
    best = some move ∨ ∃ target ∈ targets, move = ⟨target, gain target⟩ := by
  induction targets generalizing best with
  | nil => exact .inl h
  | cons target targets ih =>
    have hbetter : better best ⟨target, gain target⟩ = some ⟨target, gain target⟩ ∨
        better best ⟨target, gain target⟩ = best := by
      cases best with
      | none => exact .inl rfl
      | some old =>
        unfold better
        dsimp only
        split
        · exact .inl rfl
        · exact .inr rfl
    rw [List.foldl_cons] at h
    rcases ih h with hmove | ⟨t, ht, rfl⟩
    · rcases hbetter with heq | heq <;> rw [heq] at hmove
      · exact .inr ⟨target, List.mem_cons_self, (Option.some.inj hmove).symm⟩
      · exact .inl hmove
    · exact .inr ⟨t, List.mem_cons_of_mem _ ht, rfl⟩

/-- The best move of an element goes to another cluster. -/
theorem bestMove_eq_some {move : Move α k} (h : s.bestMove objective e = some move) :
    move.target ≠ s.label e ∧ move.gain = s.gain objective e move.target := by
  rcases foldl_better_eq_some h with hnone | ⟨target, htarget, rfl⟩
  · cases hnone
  · exact ⟨bne_iff_ne.1 (List.mem_filter.1 htarget).2, rfl⟩

/-- A trial that changes something makes a move that gains more than the least gain. -/
theorem improve?_eq_some {s' : SearchState α n k} (h : s.improve? objective cell e = some s') :
    ∃ target, target ≠ s.label e ∧ leastGain < s.gain objective e target ∧
      s' = s.move cell e target := by
  unfold improve? at h
  cases hbest : s.bestMove objective e with
  | none => simp [hbest] at h
  | some best =>
    obtain ⟨hne, hgain⟩ := bestMove_eq_some hbest
    simp only [hbest] at h
    split at h
    · rename_i hleast
      exact ⟨best.target, hne, hgain ▸ hleast, (Option.some.inj h).symm⟩
    · cases h

/-- The state after an element has been tried. -/
def trial (objective : Objective α) (cell : Fin n → Fin n → α) (s : SearchState α n k)
    (e : Fin n) : SearchState α n k :=
  (s.improve? objective cell e).getD s

/-- The state after elements have been tried one after the other. -/
def afterTrials (objective : Objective α) (cell : Fin n → Fin n → α) (s : SearchState α n k)
    (picks : List (Fin n)) : SearchState α n k :=
  picks.foldl (trial objective cell) s

/-- A trial moves the element or changes nothing. -/
theorem trial_cases (objective : Objective α) (cell : Fin n → Fin n → α) (s : SearchState α n k)
    (e : Fin n) :
    s.trial objective cell e = s ∨
      ∃ target, target ≠ s.label e ∧ leastGain < s.gain objective e target ∧
        s.trial objective cell e = s.move cell e target := by
  unfold trial
  cases h : s.improve? objective cell e with
  | none => exact .inl rfl
  | some s' => exact .inr (improve?_eq_some h)

theorem Exact.trial (h : s.Exact cell) (hsymm : ∀ i j, cell i j = cell j i)
    (objective : Objective α) (e : Fin n) : (s.trial objective cell e).Exact cell := by
  rcases trial_cases objective cell s e with heq | ⟨target, hne, -, heq⟩ <;> rw [heq]
  · exact h
  · exact h.move hsymm hne

theorem Exact.afterTrials (h : s.Exact cell) (hsymm : ∀ i j, cell i j = cell j i)
    (objective : Objective α) (picks : List (Fin n)) :
    (s.afterTrials objective cell picks).Exact cell := by
  induction picks generalizing s with
  | nil => exact h
  | cons e picks ih => exact ih (h.trial hsymm objective e)

/-- Climbing is to try the elements that are drawn, until too many in a row gain nothing. -/
theorem climb_eq_afterTrials (hn : 0 < n) (objective : Objective α) (cell : Fin n → Fin n → α)
    (maxIdle trials idle : Nat) (s : SearchState α n k) (stream : Random.WordStream) :
    ∃ picks : List (Fin n), picks.length ≤ trials ∧
      climb hn objective cell maxIdle trials idle s stream =
        s.afterTrials objective cell picks := by
  induction trials generalizing idle s stream with
  | zero => exact ⟨[], Nat.le_refl _, rfl⟩
  | succ trials ih =>
    cases idle with
    | zero => exact ⟨[], Nat.zero_le _, rfl⟩
    | succ idle =>
      obtain ⟨e, rest, hdraw⟩ : ∃ e rest, stream.below .bits64 hn = (e, rest) := ⟨_, _, rfl⟩
      have htrial : ∀ s', s.trial objective cell e = s' → ∀ picks,
          s.afterTrials objective cell (e :: picks) = s'.afterTrials objective cell picks :=
        fun s' hs' picks => by rw [← hs']; rfl
      simp only [climb, hdraw]
      cases h : s.improve? objective cell e with
      | none =>
        obtain ⟨picks, hlen, hpicks⟩ := ih idle s rest
        refine ⟨e :: picks, Nat.succ_le_succ hlen, ?_⟩
        rw [htrial s (by rw [trial, h]; rfl)]
        exact hpicks
      | some better =>
        obtain ⟨picks, hlen, hpicks⟩ := ih maxIdle better rest
        refine ⟨e :: picks, Nat.succ_le_succ hlen, ?_⟩
        rw [htrial better (by rw [trial, h]; rfl)]
        exact hpicks

end Trials

/-! ## Exact tables in every run -/

section Runs

variable [LinearOrder α] [IsStrictOrderedRing α]

/-- Whatever elements are tried, the tables tell the sizes and the sums that belong to the labels,
no cluster is empty that an element is taken from, and what a move of any element is said to gain is
the difference of what the labels are worth after and before it. What a run comes to, after any
number of its trials, is the state after some elements have been tried. -/
theorem tables_stay_exact (objective : Objective α) (m : InformationMatrix α)
    (hsymm : ∀ i j, m.cell i j = m.cell j i) (labels : Vector (Fin k) m.size) :
    (∀ picks,
      let s := (ofLabels m.cell labels).afterTrials objective m.cell picks
      s.Exact m.cell ∧ (∀ e, (s.label e).val < k ∧ 1 ≤ s.sizes[s.label e]) ∧
        ∀ e target, target ≠ s.label e →
          s.gain objective e target =
            labelsWorth objective m k (fun i => (Function.update s.label e target i).val) -
              labelsWorth objective m k (fun i => (s.label i).val)) ∧
    ∀ (hn : 0 < m.size) (maxIdle trials idle : Nat) (stream : Random.WordStream),
      ∃ picks : List (Fin m.size), picks.length ≤ trials ∧
        climb hn objective m.cell maxIdle trials idle (ofLabels m.cell labels) stream =
          (ofLabels m.cell labels).afterTrials objective m.cell picks := by
  constructor
  · intro picks s
    have hexact : s.Exact m.cell := (exact_ofLabels hsymm labels).afterTrials hsymm objective picks
    exact ⟨hexact, fun e => ⟨(s.label e).isLt, hexact.sizes_pos e⟩,
      fun e target hne => hexact.gain_eq hsymm objective hne⟩
  · intro hn maxIdle trials idle stream
    exact climb_eq_afterTrials hn objective m.cell maxIdle trials idle _ stream

/-! ## A run of three elements -/

/-- Three messages, the first two of which tell most about each other. -/
def trio : InformationMatrix ℚ where
  info := .ofCells fun i j : Fin 3 => if i = j then 0 else if i.val + j.val = 1 then 1 else 1 / 4
  ids := [1, 2, 3]
  appearances := [2, 2, 2]
  intervals := 4
  seen := .ofList [1, 2, 3]
  size_info := rfl
  square := SquareMatrix.size_data_ofCells _

theorem trio_symm : ∀ i j, trio.cell i j = trio.cell j i := by decide +kernel

/-- The first two messages are apart. -/
def trioStart : Vector (Fin 2) trio.size := ⟨#[0, 1, 1], rfl⟩

/-- The sum inside the clusters, less a part of it that grows with their sizes. -/
def insideSum : Objective ℚ where
  worth size links _ := links - (size * size : Nat) / 4

/-- First the first message is tried, then the third one. -/
def trioPicks : List (Fin trio.size) := [⟨0, by decide⟩, ⟨2, by decide⟩]

theorem tables_stay_exact_trio :
    (∀ i j, trio.cell i j = trio.cell j i) ∧
      ((ofLabels trio.cell trioStart).afterTrials insideSum trio.cell trioPicks).labels.toList =
        [1, 1, 0] ∧
      let s := (ofLabels trio.cell trioStart).afterTrials insideSum trio.cell trioPicks
      s.Exact trio.cell ∧ (∀ e, (s.label e).val < 2 ∧ 1 ≤ s.sizes[s.label e]) ∧
        ∀ e target, target ≠ s.label e →
          s.gain insideSum e target =
            labelsWorth insideSum trio 2 (fun i => (Function.update s.label e target i).val) -
              labelsWorth insideSum trio 2 (fun i => (s.label i).val) :=
  ⟨trio_symm, by decide +kernel, (tables_stay_exact insideSum trio trio_symm trioStart).1 trioPicks⟩

end Runs

end LogAnomaly.SearchState
