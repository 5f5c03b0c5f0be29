import LogAnomaly.Proofs.Partition.Climb

/-!
# Longer searches

A search with more runs, more trials or more patience never answers worse.

* `SearchState.climb_longer`: a climb with more trials draws the elements of the shorter one first,
  and goes on from where that one ends. So a run never ends with labels that are worth less
  (`objective_searchRun_le`);
* `bestRun_first`: the best run is the first one of those that are worth most;
* `bestRun_of_le`: among more runs the same one is the best, or one that is worth more;
* `Partition.search_eq_first`: so an answer is the partition of the first run that is worth most;
* `search_longer`: and longer searches answer with the same or with a better one.
-/

namespace LogAnomaly

open LogAnomaly.Random SearchState

/-! ## The best of more runs -/

section BestRun

variable {α : Type} [LinearOrder α] {n k : Nat} (result : Nat → FinishedRun α n k)

/-- The best run is worth as much as any other one, and more than all before it. -/
theorem bestRun_first (runs : Nat) :
    ∃ run ≤ runs, bestRun result runs = result run ∧
      (∀ other ≤ runs, (result other).objective ≤ (result run).objective) ∧
      ∀ earlier < run, (result earlier).objective < (result run).objective := by
  induction runs with
  | zero =>
    refine ⟨0, Nat.le_refl _, rfl, fun other hother => ?_, fun _ h => absurd h (Nat.not_lt_zero _)⟩
    rw [Nat.le_zero.1 hother]
  | succ runs ih =>
    obtain ⟨run, hrun, hbest, hmost, hfirst⟩ := ih
    rw [bestRun_succ]
    rcases (bestRun result runs).better_cases (result (runs + 1)) with
      ⟨heq, hlt⟩ | ⟨heq, hle⟩ <;> rw [hbest] at heq
    · -- the last run is worth more than the best one before it
      rw [hbest] at hlt
      have hbefore : ∀ other ≤ runs, (result other).objective < (result (runs + 1)).objective :=
        fun other hother => (hmost other hother).trans_lt hlt
      refine ⟨runs + 1, Nat.le_refl _, by rw [hbest, heq], fun other hother => ?_,
        fun earlier h => hbefore earlier (Nat.le_of_lt_succ h)⟩
      rcases Nat.lt_or_eq_of_le hother with h | rfl
      · exact (hbefore other (Nat.le_of_lt_succ h)).le
      · exact le_refl _
    · rw [hbest] at hle
      refine ⟨run, Nat.le_succ_of_le hrun, by rw [hbest, heq], fun other hother => ?_, hfirst⟩
      rcases Nat.lt_or_eq_of_le hother with h | rfl
      · exact hmost other (Nat.le_of_lt_succ h)
      · exact hle

/-- More runs leave the best one as it is, or find one that is worth more. -/
theorem bestRun_of_le {runs more : Nat} (h : runs ≤ more) :
    bestRun result more = bestRun result runs ∨
      (bestRun result runs).objective < (bestRun result more).objective := by
  induction more, h using Nat.le_induction with
  | base => exact .inl rfl
  | succ more _ ih =>
    rw [bestRun_succ]
    rcases (bestRun result more).better_cases (result (more + 1)) with
      ⟨hlater, hlt⟩ | ⟨hbest, -⟩
    · rw [hlater]
      rcases ih with heq | hmore
      · exact .inr (heq ▸ hlt)
      · exact .inr (hmore.trans hlt)
    · rwa [hbest]

/-- If every run is worth at least as much as before, then so is the best of as many or more. -/
theorem bestRun_objective_le {result' : Nat → FinishedRun α n k} {runs more : Nat}
    (hle : ∀ run, (result run).objective ≤ (result' run).objective) (h : runs ≤ more) :
    (bestRun result runs).objective ≤ (bestRun result' more).objective := by
  obtain ⟨run, hrun, hbest⟩ := bestRun_mem result runs
  calc (bestRun result runs).objective
      = (result run).objective := by rw [hbest]
    _ ≤ (result' run).objective := hle run
    _ ≤ (bestRun result' more).objective := le_bestRun result' (hrun.trans h)

end BestRun

/-! ## Longer runs -/

variable {α : Type} [Field α] [LinearOrder α]

/-- A longer climb goes on from where a shorter one ends: whether an element gains something does
not depend on how many trials are left. -/
theorem SearchState.climb_longer {n k : Nat} (hn : 0 < n) (objective : Objective α)
    (cell : Fin n → Fin n → α) {maxIdle maxIdle' trials trials' idle idle' : Nat}
    (hmax : maxIdle ≤ maxIdle') (htrials : trials ≤ trials') (hidle : idle ≤ idle')
    (s : SearchState α n k) (stream : WordStream) :
    ∃ picks : List (Fin n), climb hn objective cell maxIdle' trials' idle' s stream =
      (climb hn objective cell maxIdle trials idle s stream).afterTrials objective cell picks := by
  have hstop : ∀ trials idle (s : SearchState α n k) stream, ∃ picks : List (Fin n),
      climb hn objective cell maxIdle' trials idle s stream = s.afterTrials objective cell picks :=
    fun trials idle s stream =>
      let ⟨picks, _, hpicks⟩ := climb_eq_afterTrials hn objective cell maxIdle' trials idle s stream
      ⟨picks, hpicks⟩
  induction trials generalizing trials' idle idle' s stream with
  | zero => exact hstop ..
  | succ trials ih =>
    cases idle with
    | zero => exact hstop ..
    | succ idle =>
      obtain ⟨trials', rfl⟩ : ∃ t, trials' = t + 1 := ⟨trials' - 1, by omega⟩
      obtain ⟨idle', rfl⟩ : ∃ i, idle' = i + 1 := ⟨idle' - 1, by omega⟩
      -- both draw the same element, and it gains the same in both
      simp only [climb]
      cases s.improve? objective cell (stream.below .bits64 hn).1 with
      | none => exact ih (Nat.le_of_succ_le_succ htrials) (Nat.le_of_succ_le_succ hidle) ..
      | some better => exact ih (Nat.le_of_succ_le_succ htrials) hmax ..

section Runs

variable {m : InformationMatrix α} {k : Nat}

/-- The labels that a run begins with, and what is left of its stream. A run knows its number, but
not how many runs there are. -/
def runStart {n : Nat} (hk : 0 < k) (seed : UInt64) (initial : Option (Vector (Fin k) n))
    (run : Nat) : Vector (Fin k) n × WordStream :=
  match initial with
  | some labels => (labels, .ofSeed (runSeed seed run))
  | none => roundRobin n hk (.ofSeed (runSeed seed run))

/-- The state in which a run ends. -/
def runEnd (objective : Objective α) (m : InformationMatrix α) (hn : 0 < m.size) (hk : 0 < k)
    (params : SearchParams) (initial : Option (Vector (Fin k) m.size)) (run : Nat) :
    SearchState α m.size k :=
  let start := runStart hk params.seed initial run
  climb hn objective m.cell params.maxIdleTrials params.maxTrials params.maxIdleTrials
    (.ofLabels m.cell start.1) start.2

theorem objective_searchRun (objective : Objective α) (m : InformationMatrix α) (hn : 0 < m.size)
    (hk : 0 < k) (params : SearchParams) (initial : Option (Vector (Fin k) m.size)) (run : Nat) :
    (searchRun objective m hn hk params initial run).objective =
      (runEnd objective m hn hk params initial run).worth objective m := by
  rw [searchRun_objective_eq]
  cases initial <;> rfl

variable [IsStrictOrderedRing α]

/-- A run with more trials and more patience is worth at least as much. -/
theorem objective_searchRun_le (objective : Objective α) (hsymm : ∀ i j, m.cell i j = m.cell j i)
    (hn : 0 < m.size) (hk : 0 < k) (params : SearchParams) {trials idle : Nat} (runs : Nat)
    (htrials : params.maxTrials ≤ trials) (hidle : params.maxIdleTrials ≤ idle)
    (initial : Option (Vector (Fin k) m.size)) (run : Nat) :
    let longer := { params with numRuns := runs, maxTrials := trials, maxIdleTrials := idle }
    (searchRun objective m hn hk params initial run).objective ≤
      (searchRun objective m hn hk longer initial run).objective := by
  intro longer
  let start := runStart hk params.seed initial run
  obtain ⟨before, -, hbefore⟩ := climb_eq_afterTrials hn objective m.cell
    params.maxIdleTrials params.maxTrials params.maxIdleTrials (.ofLabels m.cell start.1) start.2
  obtain ⟨more, hmore⟩ := climb_longer hn objective m.cell hidle htrials hidle
    (.ofLabels m.cell start.1) start.2
  have hexact : (runEnd objective m hn hk params initial run).Exact m.cell := by
    show (climb hn objective m.cell params.maxIdleTrials params.maxTrials params.maxIdleTrials
      (.ofLabels m.cell start.1) start.2).Exact m.cell
    rw [hbefore]
    exact (exact_ofLabels hsymm start.1).afterTrials hsymm objective before
  have hlonger : runEnd objective m hn hk longer initial run =
      (runEnd objective m hn hk params initial run).afterTrials objective m.cell more := hmore
  rw [objective_searchRun, objective_searchRun, hlonger]
  exact hexact.worth_le_afterTrials hsymm objective more

end Runs

/-! ## The answer of a longer search -/

section Search

variable {m : InformationMatrix α} {params : SearchParams} {initial : Option (List Nat)}
  {p : Partition α}

/-- A search with other numbers of runs and trials begins with the same labels. -/
theorem Partition.search_eq_ok_more (objective : Objective α) (h3 : 3 ≤ m.size)
    (hclusters : params.numClusters ≠ 0) (hruns : params.numRuns ≠ 0) (hn : 0 < m.size)
    (hk : 0 < usableClusters params.numClusters m.size)
    {start : Option (Vector (Fin (usableClusters params.numClusters m.size)) m.size)}
    (hstart : checkInitial? m.size hk initial = .ok start) {runs : Nat}
    (hmore : params.numRuns ≤ runs) (trials idle : Nat) :
    let more := { params with numRuns := runs, maxTrials := trials, maxIdleTrials := idle }
    let best := bestRun (searchRun objective m hn hk more start) (runs - 1)
    search objective m more initial = .ok (.ofLabels m best.label best.objective) := by
  intro more
  have hruns' : more.numRuns ≠ 0 := fun h => hruns (Nat.le_zero.1 (h ▸ hmore))
  have hclusters' : more.numClusters ≠ 0 := hclusters
  exact search_eq_ok objective h3 hclusters' hruns' hn hk hstart

/-- The answer for three elements or more is the partition of the first run that is worth most. -/
theorem Partition.search_eq_first {objective : Objective α} (h3 : 3 ≤ m.size)
    (hclusters : params.numClusters ≠ 0) (hruns : params.numRuns ≠ 0)
    (hp : search objective m params initial = .ok p) :
    ∃ (hn : 0 < m.size) (hk : 0 < usableClusters params.numClusters m.size)
      (start : Option (Vector (Fin (usableClusters params.numClusters m.size)) m.size)),
      checkInitial? m.size hk initial = .ok start ∧
      let result := searchRun objective m hn hk params start
      ∃ run < params.numRuns, p = .ofLabels m (result run).label (result run).objective ∧
        (∀ other < params.numRuns, (result other).objective ≤ (result run).objective) ∧
        ∀ earlier < run, (result earlier).objective < (result run).objective := by
  have hn : 0 < m.size := by omega
  have hk := usableClusters_pos (n := m.size) hclusters
  obtain ⟨start, hstart, rfl⟩ := exists_start h3 hclusters hruns hn hk hp
  let result := searchRun objective m hn hk params start
  obtain ⟨run, hrun, hbest, hmost, hfirst⟩ := bestRun_first result (params.numRuns - 1)
  refine ⟨hn, hk, start, hstart, run, by omega, ?_, fun other hother => hmost other (by omega),
    hfirst⟩
  show Partition.ofLabels m (bestRun result _).label (bestRun result _).objective = _
  rw [hbest]

variable [IsStrictOrderedRing α]

/-- A search answers with the partition of the first run among those that are worth most. With as
many or more runs, trials and idle trials it answers with a partition that is worth at least as much;
and with as many or more runs alone it gives the same answer, or one that is worth more. -/
theorem search_longer (objective : Objective α) (m : InformationMatrix α)
    (hsymm : ∀ i j, m.cell i j = m.cell j i) (params : SearchParams) (initial : Option (List Nat))
    (hclusters : params.numClusters ≠ 0) (hruns : params.numRuns ≠ 0) :
    let k := usableClusters params.numClusters m.size
    ((∃ p, Partition.search objective m params initial = .ok p) ↔
      (3 ≤ m.size → ∀ labels, initial = some labels → Fitting m.size k labels)) ∧
    ∀ p, Partition.search objective m params initial = .ok p →
      (3 ≤ m.size → ∃ (hn : 0 < m.size) (hk : 0 < k) (start : Option (Vector (Fin k) m.size)),
        checkInitial? m.size hk initial = .ok start ∧
        let result := searchRun objective m hn hk params start
        ∃ run < params.numRuns, p = .ofLabels m (result run).label (result run).objective ∧
          (∀ other < params.numRuns, (result other).objective ≤ (result run).objective) ∧
          ∀ earlier < run, (result earlier).objective < (result run).objective) ∧
      (∀ runs trials idle, params.numRuns ≤ runs → params.maxTrials ≤ trials →
        params.maxIdleTrials ≤ idle →
        ∃ p', Partition.search objective m
            { params with numRuns := runs, maxTrials := trials, maxIdleTrials := idle } initial =
              .ok p' ∧
          p.objective ≤ p'.objective) ∧
      ∀ runs, params.numRuns ≤ runs →
        ∃ p', Partition.search objective m { params with numRuns := runs } initial = .ok p' ∧
          (p' = p ∨ p.objective < p'.objective) := by
  intro k
  refine ⟨Partition.search_ok_iff objective m initial hclusters hruns, fun p hp => ?_⟩
  by_cases h3 : m.size < 3
  · -- fewer than three elements are left alone, whatever the parameters are
    have hfew : ∀ more : SearchParams, more.numClusters ≠ 0 → more.numRuns ≠ 0 →
        Partition.search objective m more initial = .ok p := fun more hmore hmore' => by
      rw [← hp, Partition.search_few objective initial hmore hmore' h3,
        Partition.search_few objective initial hclusters hruns h3]
    refine ⟨fun h => absurd h3 (Nat.not_lt.2 h), fun runs trials idle hmore _ _ =>
      ⟨p, hfew _ hclusters ?_, le_refl _⟩, fun runs hmore => ⟨p, hfew _ hclusters ?_, .inl rfl⟩⟩
    · show runs ≠ 0
      omega
    · show runs ≠ 0
      omega
  · have hle := Nat.le_of_not_lt h3
    refine ⟨fun _ => Partition.search_eq_first hle hclusters hruns hp, ?_⟩
    have hn : 0 < m.size := by omega
    have hk : 0 < k := usableClusters_pos hclusters
    obtain ⟨start, hstart, rfl⟩ := Partition.exists_start hle hclusters hruns hn hk hp
    have hanswer := fun runs trials idle (hmore : params.numRuns ≤ runs) =>
      Partition.search_eq_ok_more objective hle hclusters hruns hn hk hstart hmore trials idle
    refine ⟨fun runs trials idle hmore htrials hidle => ⟨_, hanswer runs trials idle hmore, ?_⟩,
      fun runs hmore => ⟨_, hanswer runs params.maxTrials params.maxIdleTrials hmore, ?_⟩⟩
    · exact bestRun_objective_le _
        (objective_searchRun_le objective hsymm hn hk params runs htrials hidle start)
        (Nat.sub_le_sub_right hmore 1)
    · refine (bestRun_of_le (searchRun objective m hn hk params start)
        (Nat.sub_le_sub_right hmore 1)).imp_left fun heq => ?_
      exact congrArg (fun best => Partition.ofLabels m best.label best.objective) heq

/-- A search of one run that ends before its first trial. -/
def untried : SearchParams := { pairParams with numRuns := 1, maxTrials := 0 }

theorem search_longer_trio :
    (∀ i j, trio.cell i j = trio.cell j i) ∧ untried.numClusters ≠ 0 ∧ untried.numRuns ≠ 0 ∧
      ∃ p tried more, Partition.search insideSum trio untried (some [0, 1, 1]) = .ok p ∧
        Partition.search insideSum trio
          { untried with numRuns := 1, maxTrials := 3, maxIdleTrials := 2000 } (some [0, 1, 1]) =
            .ok tried ∧
        p.objective ≤ tried.objective ∧
        Partition.search insideSum trio { untried with numRuns := 4 } (some [0, 1, 1]) = .ok more ∧
        (more = p ∨ p.objective < more.objective) := by
  have hclusters : untried.numClusters ≠ 0 := by decide
  have hruns : untried.numRuns ≠ 0 := by decide
  obtain ⟨hok, hlonger⟩ :=
    search_longer insideSum trio trio_symm untried (some [0, 1, 1]) hclusters hruns
  obtain ⟨p, hp⟩ := hok.2 fun _ labels hlabels => by
    obtain rfl := Option.some.inj hlabels
    exact ⟨rfl, by decide⟩
  obtain ⟨-, hmore, hruns'⟩ := hlonger p hp
  obtain ⟨tried, htried, hle⟩ := hmore 1 3 2000 (by decide) (by decide) (by decide)
  obtain ⟨more, hmore, hsame⟩ := hruns' 4 (by decide)
  exact ⟨trio_symm, hclusters, hruns, p, tried, more, hp, htried, hle, hmore, hsame⟩

end Search

end LogAnomaly
