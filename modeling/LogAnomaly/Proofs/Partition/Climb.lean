import LogAnomaly.Proofs.Partition.Labels
import LogAnomaly.Proofs.Partition.Search
import LogAnomaly.Proofs.Partition.Tables
import Mathlib.Tactic.Linarith

/-!
# Climbing

A search only ever moves to labels that are worth more.

* `SearchState.Exact.worth_improve`: every move raises what the labels are worth by more than the
  least gain, so trials never lower it (`worth_le_afterTrials`), and labels that no single move
  improves stay as they are (`afterTrials_eq_self`);
* `le_bestRun`, `bestRun_mem`: the best run is worth as much as any, and is one of them; so it
  never loses against the labels that the runs are given (`worth_le_bestRun`), and keeps them where no
  move improves them (`bestRun_labels_of_settled`);
* `search_climbs`: so a search never loses against the labels that it is given.
-/

namespace LogAnomaly

/-! ## The best run -/

section BestRun

variable {α : Type} {n k : Nat} (result : Nat → FinishedRun α n k)

section

variable [LT α] [DecidableLT α]

theorem FinishedRun.better_eq (best later : FinishedRun α n k) :
    best.better later = later ∨ best.better later = best := by
  unfold better
  split
  · exact .inl rfl
  · exact .inr rfl

theorem bestRun_succ (runs : Nat) :
    bestRun result (runs + 1) = (bestRun result runs).better (result (runs + 1)) := by
  rw [bestRun, List.range_succ, List.foldl_append]
  rfl

/-- The best run is one of the runs. -/
theorem bestRun_mem (runs : Nat) : ∃ run ≤ runs, bestRun result runs = result run := by
  induction runs with
  | zero => exact ⟨0, Nat.le_refl _, rfl⟩
  | succ runs ih =>
    obtain ⟨run, hrun, heq⟩ := ih
    rw [bestRun_succ]
    rcases (bestRun result runs).better_eq (result (runs + 1)) with hlater | hbest
    · exact ⟨runs + 1, Nat.le_refl _, hlater⟩
    · exact ⟨run, Nat.le_succ_of_le hrun, hbest.trans heq⟩

end

variable [LinearOrder α]

theorem FinishedRun.better_cases (best later : FinishedRun α n k) :
    (best.better later = later ∧ best.objective < later.objective) ∨
      (best.better later = best ∧ later.objective ≤ best.objective) := by
  unfold better
  split
  · rename_i h
    exact .inl ⟨rfl, h⟩
  · rename_i h
    exact .inr ⟨rfl, not_lt.1 h⟩

/-- No run is worth more than the best one. -/
theorem le_bestRun {run runs : Nat} (h : run ≤ runs) :
    (result run).objective ≤ (bestRun result runs).objective := by
  induction runs with
  | zero =>
    obtain rfl := Nat.le_zero.1 h
    exact le_refl _
  | succ runs ih =>
    rw [bestRun_succ]
    rcases (bestRun result runs).better_cases (result (runs + 1)) with
      ⟨hlater, hlt⟩ | ⟨hbest, hle⟩
    · rw [hlater]
      rcases Nat.lt_or_eq_of_le h with hlt' | rfl
      · exact (ih (Nat.le_of_lt_succ hlt')).trans hlt.le
      · exact le_refl _
    · rw [hbest]
      rcases Nat.lt_or_eq_of_le h with hlt' | rfl
      · exact ih (Nat.le_of_lt_succ hlt')
      · exact hle

end BestRun

/-! ## Moves -/

variable {α : Type} [Field α] [LinearOrder α] [IsStrictOrderedRing α]

namespace SearchState

variable {k : Nat} {objective : Objective α} {m : InformationMatrix α}
  {s s' : SearchState α m.size k} {e : Fin m.size}

/-- What the labels are worth. -/
def worth (objective : Objective α) (m : InformationMatrix α) (s : SearchState α m.size k) : α :=
  labelsWorth objective m k fun e => (s.label e).val

/-- No move of one element gains more than the least gain. -/
def Settled (objective : Objective α) (m : InformationMatrix α) (s : SearchState α m.size k) :
    Prop :=
  ∀ e target, target ≠ s.label e →
    labelsWorth objective m k (fun i => (Function.update s.label e target i).val) ≤
      s.worth objective m + leastGain

omit [IsStrictOrderedRing α] in
/-- The labels of a search, as numbers, may be asked whether they are settled. -/
theorem settled_of_labels {given : Fin m.size → Nat} (hgiven : (fun e => (s.label e).val) = given)
    (hsettled : ∀ e target, target < k → target ≠ given e →
      labelsWorth objective m k (Function.update given e target) ≤
        labelsWorth objective m k given + leastGain) :
    s.Settled objective m := by
  subst hgiven
  intro e target hne
  have hmove : (fun i => (Function.update s.label e target i).val) =
      Function.update (fun e => (s.label e).val) e target.val :=
    funext (Function.apply_update (fun _ (c : Fin _) => c.val) _ e target)
  rw [hmove]
  exact hsettled e target.val target.isLt fun h => hne (Fin.ext h)

/-- A move raises what the labels are worth by more than the least gain. -/
theorem Exact.worth_improve (h : s.Exact m.cell) (hsymm : ∀ i j, m.cell i j = m.cell j i)
    (hs : s.improve? objective m.cell e = some s') :
    s.worth objective m + leastGain < s'.worth objective m := by
  obtain ⟨target, hne, hgain, rfl⟩ := improve?_eq_some hs
  rw [h.gain_eq hsymm objective hne] at hgain
  rw [worth, worth, label_move]
  linarith

theorem leastGain_pos : (0 : α) < leastGain := by
  unfold leastGain
  positivity

theorem Exact.worth_le_trial (h : s.Exact m.cell) (hsymm : ∀ i j, m.cell i j = m.cell j i)
    (objective : Objective α) (e : Fin m.size) :
    s.worth objective m ≤ (s.trial objective m.cell e).worth objective m := by
  rw [SearchState.trial]
  cases hs : s.improve? objective m.cell e with
  | none => exact le_refl _
  | some s' =>
    have hraise := h.worth_improve hsymm hs
    have hpos : (0 : α) < leastGain := leastGain_pos
    rw [Option.getD_some]
    linarith

/-- Trials never lower what the labels are worth. -/
theorem Exact.worth_le_afterTrials (h : s.Exact m.cell) (hsymm : ∀ i j, m.cell i j = m.cell j i)
    (objective : Objective α) (picks : List (Fin m.size)) :
    s.worth objective m ≤ (s.afterTrials objective m.cell picks).worth objective m := by
  induction picks generalizing s with
  | nil => exact le_refl _
  | cons e picks ih =>
    exact (h.worth_le_trial hsymm objective e).trans (ih (h.trial hsymm objective e))

/-- Trials change nothing where no move of one element gains enough. -/
theorem Exact.afterTrials_eq_self (h : s.Exact m.cell) (hsymm : ∀ i j, m.cell i j = m.cell j i)
    (hsettled : s.Settled objective m) (picks : List (Fin m.size)) :
    s.afterTrials objective m.cell picks = s := by
  induction picks with
  | nil => rfl
  | cons e picks ih =>
    have htrial : s.trial objective m.cell e = s := by
      rcases trial_cases objective m.cell s e with heq | ⟨target, hne, hgain, -⟩
      · exact heq
      · have hle := hsettled e target hne
        rw [h.gain_eq hsymm objective hne] at hgain
        rw [worth] at hle
        linarith
    show (s.trial objective m.cell e).afterTrials objective m.cell picks = s
    rw [htrial, ih]

end SearchState

/-! ## Runs -/

section Runs

variable {objective : Objective α} {m : InformationMatrix α} {k : Nat}

omit [IsStrictOrderedRing α] in
/-- A run tries some elements one after the other, from the labels that it is given or from
others. -/
theorem searchRun_eq_afterTrials (objective : Objective α) (m : InformationMatrix α)
    (hn : 0 < m.size) (hk : 0 < k) (params : SearchParams)
    (initial : Option (Vector (Fin k) m.size)) (run : Nat) :
    ∃ first picks, (∀ labels, initial = some labels → first = labels) ∧
      (searchRun objective m hn hk params initial run).labels =
        ((SearchState.ofLabels m.cell first).afterTrials objective m.cell picks).labels ∧
      (searchRun objective m hn hk params initial run).objective =
        ((SearchState.ofLabels m.cell first).afterTrials objective m.cell picks).worth
          objective m := by
  obtain ⟨first, stream, hfirst, hrun⟩ : ∃ first stream,
      (∀ labels, initial = some labels → first = labels) ∧
        (searchRun objective m hn hk params initial run).labels =
          (climb hn objective m.cell params.maxIdleTrials params.maxTrials params.maxIdleTrials
            (.ofLabels m.cell first) stream).labels := by
    cases initial with
    | some labels => exact ⟨labels, _, fun _ h => Option.some.inj h, rfl⟩
    | none => exact ⟨_, _, (fun _ h => nomatch h), rfl⟩
  obtain ⟨picks, -, hpicks⟩ := SearchState.climb_eq_afterTrials hn objective m.cell
    params.maxIdleTrials params.maxTrials params.maxIdleTrials (.ofLabels m.cell first) stream
  refine ⟨first, picks, hfirst, by rw [hrun, hpicks], ?_⟩
  rw [searchRun_objective_eq]
  show labelsWorth objective m k
    (fun e => ((searchRun objective m hn hk params initial run).labels.get e).val) = _
  rw [hrun, hpicks]
  rfl

/-- The best run is worth at least as much as the labels that all runs are given: the first run has
climbed from them. -/
theorem worth_le_bestRun (objective : Objective α) (hsymm : ∀ i j, m.cell i j = m.cell j i)
    (hn : 0 < m.size) (hk : 0 < k) (params : SearchParams) (first : Vector (Fin k) m.size)
    (runs : Nat) :
    (SearchState.ofLabels m.cell first).worth objective m ≤
      (bestRun (searchRun objective m hn hk params (some first)) runs).objective := by
  obtain ⟨first', picks, hfirst, -, hworth⟩ :=
    searchRun_eq_afterTrials objective m hn hk params (some first) 0
  obtain rfl := hfirst first rfl
  calc (SearchState.ofLabels m.cell first').worth objective m
      ≤ ((SearchState.ofLabels m.cell first').afterTrials objective m.cell picks).worth
          objective m :=
        (SearchState.exact_ofLabels hsymm first').worth_le_afterTrials hsymm objective picks
    _ = (searchRun objective m hn hk params (some first') 0).objective := hworth.symm
    _ ≤ _ := le_bestRun _ (Nat.zero_le _)

/-- No run leaves labels that no move of one element improves. -/
theorem bestRun_labels_of_settled (hsymm : ∀ i j, m.cell i j = m.cell j i) (hn : 0 < m.size)
    (hk : 0 < k) (params : SearchParams) {first : Vector (Fin k) m.size}
    (hsettled : (SearchState.ofLabels m.cell first).Settled objective m) (runs : Nat) :
    (bestRun (searchRun objective m hn hk params (some first)) runs).labels = first := by
  obtain ⟨run, -, hbest⟩ := bestRun_mem (searchRun objective m hn hk params (some first)) runs
  obtain ⟨first', picks, hfirst, hlabels, -⟩ :=
    searchRun_eq_afterTrials objective m hn hk params (some first) run
  obtain rfl := hfirst first rfl
  rw [hbest, hlabels,
    (SearchState.exact_ofLabels hsymm first').afterTrials_eq_self hsymm hsettled]
  rfl

end Runs

/-! ## The answer of a search -/

/-- Every move of a run raises what the labels are worth by more than the least gain, whatever
labels the run starts from. So the partition that a search gives is worth at least as much as the
labels that it is given; and if no move of one element raises these by more than the least gain, then
the search gives them back, without the gaps between them. -/
theorem search_climbs (objective : Objective α) (m : InformationMatrix α)
    (hsymm : ∀ i j, m.cell i j = m.cell j i) (h3 : 3 ≤ m.size) (params : SearchParams)
    (hclusters : params.numClusters ≠ 0) (hruns : params.numRuns ≠ 0) :
    (∀ {k : Nat} (first : Vector (Fin k) m.size) (picks : List (Fin m.size)) (e : Fin m.size)
        (better : SearchState α m.size k),
      let s := (SearchState.ofLabels m.cell first).afterTrials objective m.cell picks
      s.improve? objective m.cell e = some better →
        s.worth objective m + SearchState.leastGain < better.worth objective m) ∧
    (∀ {k : Nat} (hn : 0 < m.size) (hk : 0 < k) (start : Option (Vector (Fin k) m.size))
        (run : Nat),
      ∃ first picks, (∀ labels, start = some labels → first = labels) ∧
        (searchRun objective m hn hk params start run).labels =
          ((SearchState.ofLabels m.cell first).afterTrials objective m.cell picks).labels) ∧
    ∀ initial : List Nat, initial.length = m.size →
      (∀ label ∈ initial, label < usableClusters params.numClusters m.size) →
      let given (e : Fin m.size) : Nat := initial.getD e.val 0
      let worthOf := labelsWorth objective m (usableClusters params.numClusters m.size)
      ∃ p, Partition.search objective m params (some initial) = .ok p ∧
        worthOf given ≤ p.objective ∧
        ((∀ e target, target < usableClusters params.numClusters m.size → target ≠ given e →
            worthOf (Function.update given e target) ≤ worthOf given + SearchState.leastGain) →
          p.assignment = compacted initial) := by
  refine ⟨?_, ?_, ?_⟩
  · intro k first picks e better s hbetter
    have hexact : s.Exact m.cell :=
      (SearchState.exact_ofLabels hsymm first).afterTrials hsymm objective picks
    exact hexact.worth_improve hsymm hbetter
  · intro k hn hk start run
    obtain ⟨first, picks, hfirst, hlabels, -⟩ :=
      searchRun_eq_afterTrials objective m hn hk params start run
    exact ⟨first, picks, hfirst, hlabels⟩
  · intro initial hlen hlt given worthOf
    have hn : 0 < m.size := by omega
    have hk := usableClusters_pos (n := m.size) hclusters
    obtain ⟨first, hcheck, hfirst⟩ := checkInitial_eq_ok hk hlen hlt
    have hstart : checkInitial? m.size hk (some initial) = .ok (some first) := by
      rw [checkInitial?, hcheck]
      rfl
    have hgiven : (fun e => ((SearchState.ofLabels m.cell first).label e).val) = given :=
      funext hfirst
    have hworth : (SearchState.ofLabels m.cell first).worth objective m = worthOf given := by
      rw [SearchState.worth, hgiven]
    refine ⟨_, Partition.search_eq_ok objective h3 hclusters hruns hn hk hstart,
      hworth ▸ worth_le_bestRun objective hsymm hn hk params first _, fun hsettled => ?_⟩
    have hlabels := bestRun_labels_of_settled hsymm hn hk params
      (SearchState.settled_of_labels hgiven hsettled) (params.numRuns - 1)
    have hlabel : (bestRun (searchRun objective m hn hk params (some first))
        (params.numRuns - 1)).label = given := by
      rw [← hgiven]
      exact congrArg (fun (labels : Vector _ _) e => (labels.get e).val) hlabels
    have hlist : List.ofFn given = initial := by
      refine List.ext_getElem (by simp [hlen]) fun i h₁ h₂ => ?_
      simp [given, h₂]
    rw [hlabel, Partition.assignment_ofLabels, hlist]

/-- A search for two clusters. -/
def pairParams : SearchParams := { numClusters := 2 }

open SearchState in
theorem search_climbs_trio :
    (∃ better, (ofLabels trio.cell trioStart).improve? insideSum trio.cell ⟨0, by decide⟩ =
        some better ∧
      (ofLabels trio.cell trioStart).worth insideSum trio + leastGain <
        better.worth insideSum trio) ∧
    ∃ p, Partition.search insideSum trio pairParams (some [0, 0, 1]) = .ok p ∧
      -1 / 4 ≤ p.objective ∧ p.assignment = [0, 0, 1] := by
  have hclimbs := search_climbs insideSum trio trio_symm (by decide) pairParams (by decide)
    (by decide)
  constructor
  · have hsome : ((ofLabels trio.cell trioStart).improve? insideSum trio.cell
        ⟨0, by decide⟩).isSome := by decide +kernel
    obtain ⟨better, hbetter⟩ := Option.isSome_iff_exists.1 hsome
    exact ⟨better, hbetter, hclimbs.1 trioStart [] _ better hbetter⟩
  · obtain ⟨p, hp, hworth, hkept⟩ := hclimbs.2.2 [0, 0, 1] (by decide) (by decide)
    have hgiven : labelsWorth insideSum trio (usableClusters pairParams.numClusters trio.size)
        (fun e => [0, 0, 1].getD e.val 0) = -1 / 4 := by decide +kernel
    have hsettled : ∀ (e : Fin trio.size) target,
        target < usableClusters pairParams.numClusters trio.size →
        target ≠ [0, 0, 1].getD e.val 0 →
        labelsWorth insideSum trio (usableClusters pairParams.numClusters trio.size)
            (Function.update (fun e => [0, 0, 1].getD e.val 0) e target) ≤
          labelsWorth insideSum trio (usableClusters pairParams.numClusters trio.size)
            (fun e => [0, 0, 1].getD e.val 0) + leastGain := by decide +kernel
    exact ⟨p, hp, hgiven ▸ hworth, (hkept hsettled).trans (by decide)⟩

end LogAnomaly
