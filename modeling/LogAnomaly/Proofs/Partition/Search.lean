import LogAnomaly.Partition.Run
import LogAnomaly.Proofs.Partition.Evaluate

/-!
# What a search answers

* `Fitting`: labels that a search takes, and `checkInitial_eq_ok`: it takes them as they are;
* `Misfit`: what is wrong with all others, and `checkInitial_cases`: just that is reported;
* `search_eq_ok`: from fitting labels the answer is the partition of the best run; `exists_start`:
  every answer for three elements or more is one of these;
* `search_eq_ofLabels`: every answer is the partition of some labels;
* `search_cases`, `search_ok_iff`: a search is refused for labels that do not fit, and for nothing
  else.
-/

namespace LogAnomaly

/-! ## Labels that are given -/

theorem badLabel?_eq_none {k : Nat} {labels : List Nat} (h : ∀ label ∈ labels, label < k) :
    badLabel? k labels = none := by
  refine List.find?_eq_none.2 fun x hx => ?_
  have := h x.1 (List.fst_mem_of_mem_zipIdx hx)
  simpa using this

/-- Labels below the number of clusters are taken as they are. -/
theorem checkInitial_eq_ok {n k : Nat} (hk : 0 < k) {labels : List Nat} (hlen : labels.length = n)
    (h : ∀ label ∈ labels, label < k) :
    ∃ first : Vector (Fin k) n, checkInitial n hk labels = .ok first ∧
      ∀ e : Fin n, (first[e]).val = labels.getD e.val 0 := by
  refine ⟨_, by rw [checkInitial, dif_pos hlen, badLabel?_eq_none h], fun e => ?_⟩
  have hlt : e.val < labels.length := hlen ▸ e.isLt
  have hmod : labels[e.val] % k = labels[e.val] := Nat.mod_eq_of_lt (h _ (List.getElem_mem hlt))
  simp [inTurn, hlt, hmod]

/-- Labels for `n` elements, each below `k`. -/
def Fitting (n k : Nat) (labels : List Nat) : Prop :=
  labels.length = n ∧ ∀ label ∈ labels, label < k

/-- What is wrong with labels for `n` elements that should be below `k`. -/
inductive Misfit (n k : Nat) (labels : List Nat) : InitialFault → Prop
  | length (h : labels.length ≠ n) : Misfit n k labels (.length n labels.length)
  /-- The first label that is not below `k` is named. -/
  | label {entry got : Nat} (hlen : labels.length = n) (hgot : labels[entry]? = some got)
    (hk : k ≤ got) (hfirst : ∀ i < entry, ∀ label, labels[i]? = some label → label < k) :
    Misfit n k labels (.label entry got k)

theorem badLabel?_eq_some {k entry got : Nat} {labels : List Nat}
    (h : badLabel? k labels = some (got, entry)) :
    labels[entry]? = some got ∧ k ≤ got ∧
      ∀ i < entry, ∀ label, labels[i]? = some label → label < k := by
  obtain ⟨hbad, place, hplace, hget, hbefore⟩ := List.find?_eq_some_iff_getElem.1 h
  rw [List.length_zipIdx] at hplace
  rw [List.getElem_zipIdx, Prod.mk.injEq, Nat.zero_add] at hget
  obtain ⟨rfl, rfl⟩ := hget
  refine ⟨List.getElem?_eq_getElem hplace, by simpa using hbad, fun i hi label hlabel => ?_⟩
  obtain ⟨hlt, rfl⟩ := List.getElem?_eq_some_iff.1 hlabel
  simpa using hbefore i hi

/-- Labels that do not fit are refused with what is wrong with them. -/
theorem checkInitial_cases {n k : Nat} (hk : 0 < k) (labels : List Nat) :
    (Fitting n k labels ∧ ∃ first, checkInitial n hk labels = .ok first) ∨
      ∃ fault, Misfit n k labels fault ∧ checkInitial n hk labels = .error (.initial fault) := by
  by_cases hlen : labels.length = n
  · cases hbad : badLabel? k labels with
    | none =>
      have hlt : ∀ label ∈ labels, label < k := fun label hlabel => by
        obtain ⟨i, hi, rfl⟩ := List.getElem_of_mem hlabel
        have := List.find?_eq_none.1 hbad (labels[i], i) (List.mem_zipIdx_iff_getElem?.2
          (List.getElem?_eq_getElem hi))
        simpa using this
      obtain ⟨first, hfirst, -⟩ := checkInitial_eq_ok hk hlen hlt
      exact .inl ⟨⟨hlen, hlt⟩, first, hfirst⟩
    | some bad =>
      obtain ⟨got, entry⟩ := bad
      obtain ⟨hgot, hle, hfirst⟩ := badLabel?_eq_some hbad
      refine .inr ⟨.label entry got k, .label hlen hgot hle hfirst, ?_⟩
      rw [checkInitial, dif_pos hlen, hbad]
  · exact .inr ⟨.length n labels.length, .length hlen, dif_neg hlen⟩

theorem Misfit.not_fitting {n k : Nat} {labels : List Nat} {fault : InitialFault}
    (h : Misfit n k labels fault) : ¬ Fitting n k labels := by
  cases h with
  | length hlen => exact fun hfit => hlen hfit.1
  | label _ hgot hk _ =>
    exact fun hfit => Nat.not_lt.2 hk (hfit.2 _ (List.mem_of_getElem? hgot))

/-! ## Answers -/

/-- What a run says that its labels are worth is what they are worth. -/
theorem searchRun_objective_eq {α : Type} [Add α] [Sub α] [Div α] [NatCast α] [LT α] [DecidableLT α]
    (objective : Objective α) (m : InformationMatrix α) {k : Nat} (hn : 0 < m.size) (hk : 0 < k)
    (params : SearchParams) (initial : Option (Vector (Fin k) m.size)) (run : Nat) :
    (searchRun objective m hn hk params initial run).objective =
      labelsWorth objective m k (searchRun objective m hn hk params initial run).label :=
  evaluate_eq_labelsWorth ..

namespace Partition

variable {α : Type} [Add α] [Sub α] [Div α] [NatCast α] [LT α] [DecidableLT α]
  {objective : Objective α} {m : InformationMatrix α} {params : SearchParams}
  {initial : Option (List Nat)}

theorem search_eq_ok (objective : Objective α) (h3 : 3 ≤ m.size)
    (hclusters : params.numClusters ≠ 0) (hruns : params.numRuns ≠ 0) (hn : 0 < m.size)
    (hk : 0 < usableClusters params.numClusters m.size)
    {start : Option (Vector (Fin (usableClusters params.numClusters m.size)) m.size)}
    (hstart : checkInitial? m.size hk initial = .ok start) :
    let best := bestRun (searchRun objective m hn hk params start) (params.numRuns - 1)
    search objective m params initial = .ok (.ofLabels m best.label best.objective) := by
  rw [search, dif_neg hclusters, if_neg hruns, dif_neg (by omega)]
  simp only [hstart, compact_eq_ofLabels]

/-- Labels that do not fit are what a search of three elements or more is refused for. -/
theorem search_eq_error (objective : Objective α) (h3 : 3 ≤ m.size)
    (hclusters : params.numClusters ≠ 0) (hruns : params.numRuns ≠ 0)
    (hk : 0 < usableClusters params.numClusters m.size) {e : TrainingError}
    (hstart : checkInitial? m.size hk initial = .error e) :
    search objective m params initial = .error e := by
  rw [search, dif_neg hclusters, if_neg hruns, dif_neg (by omega)]
  simp only [hstart]

/-- Every answer for three elements or more is the partition of the best run from some labels. -/
theorem exists_start (h3 : 3 ≤ m.size) (hclusters : params.numClusters ≠ 0)
    (hruns : params.numRuns ≠ 0) (hn : 0 < m.size)
    (hk : 0 < usableClusters params.numClusters m.size) {p : Partition α}
    (hp : search objective m params initial = .ok p) :
    ∃ start, checkInitial? m.size hk initial = .ok start ∧
      let best := bestRun (searchRun objective m hn hk params start) (params.numRuns - 1)
      p = .ofLabels m best.label best.objective := by
  cases hstart : checkInitial? m.size hk initial with
  | error e =>
    rw [search_eq_error objective h3 hclusters hruns hk hstart] at hp
    cases hp
  | ok start =>
    rw [search_eq_ok objective h3 hclusters hruns hn hk hstart] at hp
    exact ⟨start, rfl, (Except.ok.inj hp).symm⟩

/-- Fewer than three elements are left alone. -/
theorem search_few (objective : Objective α) (initial : Option (List Nat))
    (hclusters : params.numClusters ≠ 0) (hruns : params.numRuns ≠ 0) (h3 : m.size < 3) :
    search objective m params initial =
      .ok (.ofLabels m (fun i => i.val) (labelsWorth objective m m.size fun i => i.val)) := by
  rw [search, dif_neg hclusters, if_neg hruns, dif_pos h3, compact_eq_ofLabels,
    evaluate_eq_labelsWorth]
  simp only [SearchState.get_ofFn]

theorem search_eq_ofLabels {p : Partition α} (h : search objective m params initial = .ok p) :
    ∃ labels worth, p = ofLabels m labels worth := by
  unfold search at h
  split at h
  · cases h
  split at h
  · cases h
  split at h
  · exact ⟨_, _, (Except.ok.inj h).symm.trans (compact_eq_ofLabels ..)⟩
  · dsimp only at h
    split at h
    · cases h
    · exact ⟨_, _, (Except.ok.inj h).symm.trans (compact_eq_ofLabels ..)⟩

/-- A search answers unless labels that do not fit are given for three elements or more. -/
theorem search_cases (objective : Objective α) (m : InformationMatrix α)
    (initial : Option (List Nat)) (hclusters : params.numClusters ≠ 0)
    (hruns : params.numRuns ≠ 0) :
    ((3 ≤ m.size → ∀ labels, initial = some labels →
        Fitting m.size (usableClusters params.numClusters m.size) labels) ∧
      ∃ p, search objective m params initial = .ok p) ∨
    (3 ≤ m.size ∧ ∃ labels fault, initial = some labels ∧
      Misfit m.size (usableClusters params.numClusters m.size) labels fault ∧
      search objective m params initial = .error (.initial fault)) := by
  by_cases h3 : m.size < 3
  · exact .inl ⟨fun hle => absurd h3 (Nat.not_lt.2 hle), _,
      search_few objective initial hclusters hruns h3⟩
  · have hle := Nat.le_of_not_lt h3
    have hn : 0 < m.size := by omega
    have hk := usableClusters_pos (n := m.size) hclusters
    cases initial with
    | none =>
      exact .inl ⟨fun _ _ h => absurd h.symm (Option.some_ne_none _), _,
        search_eq_ok objective hle hclusters hruns hn hk rfl⟩
    | some labels =>
      rcases checkInitial_cases (n := m.size) hk labels with
        ⟨hfit, first, hfirst⟩ | ⟨fault, hmisfit, hfault⟩
      · have hstart : checkInitial? m.size hk (some labels) = .ok (some first) := by
          rw [checkInitial?, hfirst]
          rfl
        refine .inl ⟨fun _ _ h => Option.some.inj h ▸ hfit, _,
          search_eq_ok objective hle hclusters hruns hn hk hstart⟩
      · have hstart : checkInitial? m.size hk (some labels) = .error (.initial fault) := by
          rw [checkInitial?, hfault]
          rfl
        exact .inr ⟨hle, labels, fault, rfl, hmisfit,
          search_eq_error objective hle hclusters hruns hk hstart⟩

/-- A search answers just if it is given no labels, or labels that fit, or fewer than three
elements. -/
theorem search_ok_iff (objective : Objective α) (m : InformationMatrix α)
    (initial : Option (List Nat)) (hclusters : params.numClusters ≠ 0)
    (hruns : params.numRuns ≠ 0) :
    (∃ p, search objective m params initial = .ok p) ↔
      (3 ≤ m.size → ∀ labels, initial = some labels →
        Fitting m.size (usableClusters params.numClusters m.size) labels) := by
  rcases search_cases objective m initial hclusters hruns with
    ⟨hfit, hok⟩ | ⟨h3, labels, fault, hinitial, hmisfit, herror⟩
  · exact iff_of_true hok hfit
  · refine iff_of_false ?_ fun hfit => hmisfit.not_fitting (hfit h3 labels hinitial)
    rintro ⟨p, hp⟩
    rw [herror] at hp
    cases hp

end Partition

end LogAnomaly
