import LogAnomaly.Proofs.Partition.Tables
import LogAnomaly.Proofs.Partition.Verdicts

/-!
# Right decisions

A filter decides about every cluster what its rule says.

* `Comparable`: scores that can be put in order, as all floats but those that are no numbers;
* `IsFirstLeast`: the first place of a least score, which is what `lowest?` finds
  (`lowest?_eq_some_iff`);
* `Filtered.Decides`: the right verdicts, their numbers, and the rows that they leave in a cluster;
* `filter_decides`: a filter gives them.
-/

namespace LogAnomaly

/-! ## The first least score -/

section Lowest

variable {α : Type} [LT α]

/-- Scores that can be compared with each other: some may count as equal, but of two that do not,
any third one lies above the lower one or below the higher one. -/
structure Comparable (scores : List α) : Prop where
  asymm : ∀ a ∈ scores, ∀ b ∈ scores, a < b → ¬ b < a
  lt_or_lt : ∀ a ∈ scores, ∀ b ∈ scores, ∀ c ∈ scores, a < b → a < c ∨ c < b

theorem Comparable.of_linearOrder {β : Type} [LinearOrder β] (scores : List β) :
    Comparable scores where
  asymm _ _ _ _ hab := hab.asymm
  lt_or_lt a _ b _ c _ hab := by
    rcases lt_or_ge a c with hac | hca
    · exact .inl hac
    · exact .inr (hca.trans_lt hab)

theorem Comparable.of_subset {scores more : List α} (h : Comparable more)
    (hsub : ∀ a ∈ scores, a ∈ more) : Comparable scores where
  asymm a ha b hb := h.asymm a (hsub a ha) b (hsub b hb)
  lt_or_lt a ha b hb c hc := h.lt_or_lt a (hsub a ha) b (hsub b hb) c (hsub c hc)

/-- The first place of a least score: no score is below it, and all that come before are above. -/
structure IsFirstLeast (scores : List α) (place : Nat) (least : α) : Prop where
  getElem?_eq : scores[place]? = some least
  not_lt : ∀ score ∈ scores, ¬ score < least
  lt_of_lt : ∀ (earlier : Nat) score, earlier < place → scores[earlier]? = some score →
    least < score

variable {scores : List α} {place : Nat} {least score : α}

theorem IsFirstLeast.unique {place' : Nat} {least' : α} (h : IsFirstLeast scores place least)
    (h' : IsFirstLeast scores place' least') : place = place' := by
  rcases Nat.lt_trichotomy place place' with hlt | rfl | hlt
  · exact absurd (h'.lt_of_lt _ _ hlt h.getElem?_eq)
      (h.not_lt _ (List.mem_of_getElem? h'.getElem?_eq))
  · rfl
  · exact absurd (h.lt_of_lt _ _ hlt h'.getElem?_eq)
      (h'.not_lt _ (List.mem_of_getElem? h.getElem?_eq))

/-- A score that is not lower changes nothing. -/
theorem IsFirstLeast.concat (h : IsFirstLeast scores place least) (hscore : ¬ score < least) :
    IsFirstLeast (scores ++ [score]) place least where
  getElem?_eq := by
    obtain ⟨hplace, -⟩ := List.getElem?_eq_some_iff.1 h.getElem?_eq
    rw [List.getElem?_append_left hplace]
    exact h.getElem?_eq
  not_lt other hother := by
    rcases List.mem_append.1 hother with hold | hnew
    · exact h.not_lt other hold
    · rw [List.mem_singleton.1 hnew]
      exact hscore
  lt_of_lt earlier other hearlier hother := by
    obtain ⟨hplace, -⟩ := List.getElem?_eq_some_iff.1 h.getElem?_eq
    rw [List.getElem?_append_left (hearlier.trans hplace)] at hother
    exact h.lt_of_lt earlier other hearlier hother

/-- A lower score takes the place of the least one. -/
theorem IsFirstLeast.concat_lower (hcomp : Comparable (scores ++ [score]))
    (h : IsFirstLeast scores place least) (hscore : score < least) :
    IsFirstLeast (scores ++ [score]) scores.length score := by
  have hnew : score ∈ scores ++ [score] := by simp
  have hleast : least ∈ scores ++ [score] :=
    List.mem_append_left _ (List.mem_of_getElem? h.getElem?_eq)
  have habove : ∀ other ∈ scores, score < other := fun other hother =>
    (hcomp.lt_or_lt score hnew least hleast other (List.mem_append_left _ hother)
      hscore).resolve_right (h.not_lt other hother)
  exact {
    getElem?_eq := by simp
    not_lt := fun other hother hlt => by
      have hback : ¬ score < other := hcomp.asymm other hother score hnew hlt
      rcases List.mem_append.1 hother with hold | hself
      · exact hback (habove other hold)
      · rw [List.mem_singleton.1 hself] at hlt hback
        exact hback hlt
    lt_of_lt := fun earlier other hearlier hother => by
      rw [List.getElem?_append_left hearlier] at hother
      exact habove other (List.mem_of_getElem? hother) }

variable [DecidableLT α]

/-- The search goes on from the first least score of those that it has seen. -/
theorem isFirstLeast_lowestFrom {rest : List α} (hcomp : Comparable (scores ++ rest))
    (h : IsFirstLeast scores place least) :
    ∃ lowest, IsFirstLeast (scores ++ rest) (lowestFrom least place scores.length rest) lowest := by
  induction rest generalizing scores place least with
  | nil => exact ⟨least, by simpa [lowestFrom] using h⟩
  | cons score rest ih =>
    have happ : scores ++ score :: rest = scores ++ [score] ++ rest := by simp
    have hlen : scores.length + 1 = (scores ++ [score]).length := by simp
    rw [happ] at hcomp ⊢
    rw [lowestFrom, hlen]
    split
    · rename_i hscore
      exact ih hcomp (h.concat_lower (hcomp.of_subset fun a ha => List.mem_append_left _ ha) hscore)
    · rename_i hscore
      exact ih hcomp (h.concat hscore)

theorem lowest?_eq_some_iff (hcomp : Comparable scores) :
    lowest? scores = some place ↔ ∃ lowest, IsFirstLeast scores place lowest := by
  have hfound : ∀ found, lowest? scores = some found →
      ∃ lowest, IsFirstLeast scores found lowest := by
    intro found hfound
    cases scores with
    | nil => cases hfound
    | cons score rest =>
      obtain rfl := Option.some.inj hfound
      have hfirst : IsFirstLeast [score] 0 score := {
        getElem?_eq := rfl
        not_lt := fun other hother hlt => by
          rw [List.mem_singleton.1 hother] at hlt
          exact hcomp.asymm score (by simp) score (by simp) hlt hlt
        lt_of_lt := fun _ _ hlt => absurd hlt (Nat.not_lt_zero _) }
      exact isFirstLeast_lowestFrom hcomp hfirst
  constructor
  · exact hfound place
  · rintro ⟨lowest, hlowest⟩
    have hne : scores ≠ [] := List.ne_nil_of_mem (List.mem_of_getElem? hlowest.getElem?_eq)
    obtain ⟨found, -, heq⟩ := lowest?_eq_some hne
    obtain ⟨lowest', hlowest'⟩ := hfound found heq
    rw [heq, hlowest.unique hlowest']

end Lowest

/-! ## The decisions -/

section Decisions

variable {α : Type} [LT α] [DecidableLT α] [Add α] [Mul α] [Div α] [NatCast α]
  {m : InformationMatrix α} {rule : FilterRule α} {p : Partition α} {f : Filtered α}

/-- The right verdicts about the clusters of a partition. -/
structure Filtered.Decides (m : InformationMatrix α) (rule : FilterRule α) (p : Partition α)
    (f : Filtered α) : Prop where
  /-- There is one verdict about each cluster, in their order. -/
  rawIndex_eq : f.verdicts.map (·.rawIndex) = List.range p.parts.length
  size_eq : f.verdicts.map (·.size) = p.parts.map (·.size)
  /-- No cluster is left without a decision. -/
  decided : ∀ v ∈ f.verdicts, v.decision ≠ .undecided
  count_lowestScore : p.parts ≠ [] → f.count .lowestScore = 1
  /-- The cluster with the lowest score is the first one with a least score. -/
  lowestScore_iff : ∀ (c : Nat) (v : Verdict α), f.verdicts[c]? = some v →
    (v.decision = .lowestScore ↔ ∃ least, IsFirstLeast (p.parts.map (·.score)) c least)
  /-- All other small clusters are too small. -/
  tooSmall_iff : ∀ (c : Nat) (v : Verdict α), f.verdicts[c]? = some v → v.decision ≠ .lowestScore →
    (v.decision = .tooSmall ↔ v.size < rule.minClusterSize)
  /-- Of clusters that are not small the mean is known. -/
  meanInfo_eq : ∀ (c : Nat) (v : Verdict α), f.verdicts[c]? = some v →
    rule.minClusterSize ≤ v.size → m.pairMean? (p.members c) = some v.meanInfo
  /-- Those of them with a mean below the multiple of the overall one, if it is set, are too
  noisy. -/
  tooNoisy_iff : ∀ (c : Nat) (v : Verdict α), f.verdicts[c]? = some v → v.decision ≠ .lowestScore →
    rule.minClusterSize ≤ v.size →
    (v.decision = .tooNoisy ↔
      ∃ ratio, rule.minAvgInfoRatio = some ratio ∧ v.meanInfo < ratio * m.overallMean)
  /-- And the others are used. -/
  used_iff : ∀ (c : Nat) (v : Verdict α), f.verdicts[c]? = some v → v.decision ≠ .lowestScore →
    (v.decision = .used ↔ v.decision ≠ .tooSmall ∧ v.decision ≠ .tooNoisy)
  usedIndex_isSome_iff : ∀ v ∈ f.verdicts, v.usedIndex.isSome ↔ v.decision = .used
  /-- The used clusters are numbered in their order. -/
  usedIndex_eq : f.used.map (·.usedIndex) = (List.range f.used.length).map some
  /-- Every row gets the number of its cluster. -/
  assignment_eq :
    f.assignment = p.assignment.map fun c => (f.verdicts[c]?).bind (·.usedIndex)
  /-- So the rows of a used cluster are the members that it had. -/
  assignment_iff : ∀ (k : Nat) (v : Verdict α), f.used[k]? = some v → ∀ i : Nat,
    f.assignment[i]? = some (some k) ↔ i ∈ p.members v.rawIndex

theorem usedIndex_used (h : p.filter m rule = .ok f) :
    f.used.map (·.usedIndex) = (List.range f.used.length).map some := by
  refine List.ext_getElem (by simp) fun k hk _ => ?_
  rw [List.length_map] at hk
  rw [List.getElem_map, List.getElem_map, List.getElem_range]
  exact ((getElem?_used_iff h).1 (List.getElem?_eq_getElem hk)).2

theorem size_verdicts (h : p.filter m rule = .ok f) :
    f.verdicts.map (·.size) = p.parts.map (·.size) := by
  refine List.ext_getElem (by simp [length_verdicts h]) fun c hc hc' => ?_
  rw [List.length_map] at hc hc'
  rw [List.getElem_map, List.getElem_map]
  obtain ⟨-, part, hpart, hsize, -⟩ := verdicts_cases h (List.getElem?_eq_getElem hc)
  rw [List.getElem?_eq_getElem hc', Option.some_inj] at hpart
  rw [hsize, hpart]

/-- All that a verdict can say about a cluster that does not have the lowest score. -/
theorem decision_cases (h : p.filter m rule = .ok f) {c : Nat} {v : Verdict α}
    (hv : f.verdicts[c]? = some v) :
    (rule.minClusterSize ≤ v.size → m.pairMean? (p.members c) = some v.meanInfo) ∧
      (v.decision ≠ .lowestScore →
        (v.decision = .tooSmall ∧ v.size < rule.minClusterSize) ∨
          (rule.minClusterSize ≤ v.size ∧
            ((v.decision = .tooNoisy ∧ rule.FindsNoisy m v.meanInfo) ∨
              (v.decision = .used ∧ ¬ rule.FindsNoisy m v.meanInfo)))) := by
  obtain ⟨part, own, -, hjudge, -, -, hv⟩ := getElem?_verdicts h hv
  obtain ⟨-, hsize, hcases⟩ := judge?_cases hjudge
  rw [hv]
  dsimp only
  rw [hsize]
  constructor
  · intro hle
    rcases hcases with ⟨-, hlt⟩ | ⟨-, hmean, -⟩
    · exact absurd hle (Nat.not_le.2 hlt)
    · exact hmean
  · split
    · exact fun hne => absurd rfl hne
    · rcases hcases with hsmall | ⟨hle, -, hnoisy⟩
      · exact fun _ => .inl hsmall
      · exact fun _ => .inr ⟨hle, hnoisy⟩

/-- A filter decides right about the clusters of a partition with scores that can be compared. It
does decide if no row of the partition is missing in the matrix, and it never refuses: the error
about a cluster without a decision does not occur. -/
theorem filter_decides (m : InformationMatrix α) (rule : FilterRule α) (p : Partition α)
    (hcomp : Comparable (p.parts.map (·.score))) :
    (p.assignment.length ≤ m.size → ∃ f, p.filter m rule = .ok f) ∧
      (∀ e, p.filter m rule ≠ .error (.refused e)) ∧
      ∀ f, p.filter m rule = .ok f → f.Decides m rule p := by
  refine ⟨exists_filter rule, filter_ne_refused m rule p, fun f h => ?_⟩
  obtain ⟨-, -, -, -, hassign⟩ := filter_eq_ok h
  exact {
    rawIndex_eq := rawIndex_verdicts h
    size_eq := size_verdicts h
    decided := fun v hv => by
      obtain ⟨c, hc⟩ := List.getElem?_of_mem hv
      obtain ⟨-, -, -, -, hdecided, -⟩ := getElem?_verdicts h hc
      exact hdecided
    count_lowestScore := count_lowestScore h
    lowestScore_iff := fun c v hv => by
      obtain ⟨-, -, -, -, hlowest, -⟩ := verdicts_cases h hv
      rw [hlowest, lowest?_eq_some_iff hcomp]
    tooSmall_iff := fun c v hv hne => by
      rcases (decision_cases h hv).2 hne with ⟨hd, hlt⟩ | ⟨hle, ⟨hd, -⟩ | ⟨hd, -⟩⟩
      · simp [hd, hlt]
      · simp [hd, hle]
      · simp [hd, hle]
    meanInfo_eq := fun c v hv => (decision_cases h hv).1
    tooNoisy_iff := fun c v hv hne hle => by
      rcases (decision_cases h hv).2 hne with ⟨-, hlt⟩ | ⟨-, ⟨hd, hnoisy⟩ | ⟨hd, hnot⟩⟩
      · exact absurd hle (Nat.not_le.2 hlt)
      · exact iff_of_true hd hnoisy
      · exact iff_of_false (by simp [hd]) hnot
    used_iff := fun c v hv hne => by
      rcases (decision_cases h hv).2 hne with ⟨hd, -⟩ | ⟨-, ⟨hd, -⟩ | ⟨hd, -⟩⟩ <;> simp [hd]
    usedIndex_isSome_iff := fun v hv => by
      obtain ⟨c, hc⟩ := List.getElem?_of_mem hv
      obtain ⟨-, -, -, -, -, hused, -⟩ := getElem?_verdicts h hc
      exact hused.symm
    usedIndex_eq := usedIndex_used h
    assignment_eq := hassign
    assignment_iff := fun k v hv i => by
      rw [getElem?_assignment_iff h, Partition.mem_members_iff, hv]
      simp }

/-- The first message is apart from the other two. -/
def trioApart : Partition ℚ := ⟨[0, 1, 1], [⟨1, 1⟩, ⟨2, 1 / 4⟩], 0⟩

/-- Single messages are enough for a cluster, and half of the overall mean. -/
def halfOfMean : FilterRule ℚ := { minClusterSize := 1, minAvgInfoRatio := some (1 / 2) }

/-- The only member of the first cluster has no mean to speak of, and the second one is left out for
its score. -/
theorem filter_decides_trio :
    let m := SearchState.trio
    Comparable (trioApart.parts.map (·.score)) ∧ trioApart.assignment.length ≤ m.size ∧
      ∃ f, trioApart.filter m halfOfMean = .ok f ∧
        f.verdicts.map (·.decision) = [.tooNoisy, .lowestScore] ∧
        f.Decides m halfOfMean trioApart := by
  have hcomp : Comparable (trioApart.parts.map (·.score)) := .of_linearOrder _
  have hfits : trioApart.assignment.length ≤ SearchState.trio.size := by decide
  obtain ⟨hexists, -, hdecides⟩ := filter_decides SearchState.trio halfOfMean trioApart hcomp
  obtain ⟨f, hf⟩ := hexists hfits
  have hdecisions : (trioApart.filter SearchState.trio halfOfMean).toOption.map
      (fun f => f.verdicts.map (·.decision)) = some [.tooNoisy, .lowestScore] := by decide +kernel
  rw [hf] at hdecisions
  exact ⟨hcomp, hfits, f, hf, Option.some.inj hdecisions, hdecides f hf⟩

end Decisions

end LogAnomaly
