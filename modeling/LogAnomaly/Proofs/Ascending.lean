import LogAnomaly.Ascending
import Mathlib.Data.List.Nodup
import Mathlib.Data.List.Perm.Basic

/-!
# Places in ascending lists

* `eq_of_mem_iff_mem`: an ascending list is known by its elements;
* `idxOf_ascending`, `idxOf_lt_idxOf_iff`: the place of an element is the number of smaller ones, so
  that places are ordered as elements are.
-/

namespace LogAnomaly

variable {s t : List Nat}

theorem nodup_of_ascending (h : s.Pairwise (· < ·)) : s.Nodup := h.imp Nat.ne_of_lt

/-- Two ascending lists with the same elements are the same. -/
theorem eq_of_mem_iff_mem (hs : s.Pairwise (· < ·)) (ht : t.Pairwise (· < ·))
    (h : ∀ a, a ∈ s ↔ a ∈ t) : s = t :=
  List.Perm.eq_of_pairwise (fun _ _ _ _ hab hba => absurd hab (Nat.lt_asymm hba)) hs ht
    ((List.perm_ext_iff_of_nodup (nodup_of_ascending hs) (nodup_of_ascending ht)).2 h)

/-- An ascending list is left as it is. -/
theorem ascending_eq_self (h : s.Pairwise (· < ·)) : ascending s = s :=
  eq_of_mem_iff_mem (pairwise_ascending s) h fun _ => mem_ascending

/-- A set is known by its elements. -/
theorem IdSet.ext {s t : IdSet} (h : ∀ id, id ∈ s.toList ↔ id ∈ t.toList) : s = t := by
  obtain ⟨s, hs⟩ := s
  obtain ⟨t, ht⟩ := t
  obtain rfl : s = t := eq_of_mem_iff_mem hs ht h
  rfl

/-- In an ascending list the place of an element is the number of smaller ones. -/
theorem idxOf_ascending (h : s.Pairwise (· < ·)) {a : Nat} (ha : a ∈ s) :
    s.idxOf a = (s.filter (· < a)).length := by
  induction s with
  | nil => simp at ha
  | cons b s ih =>
    have hb := List.pairwise_cons.1 h
    by_cases hab : b = a
    · subst hab
      have hnone : s.filter (· < b) = [] := List.filter_eq_nil_iff.2 fun x hx => by
        have := hb.1 x hx
        simp only [decide_eq_true_eq]
        omega
      simp [hnone]
    · have hmem : a ∈ s := (List.mem_cons.1 ha).resolve_left (Ne.symm hab)
      have hlt : b < a := hb.1 a hmem
      rw [List.idxOf_cons_ne _ hab, ih hb.2 hmem]
      simp [hlt]

theorem lt_of_idxOf_lt (h : s.Pairwise (· < ·)) {a b : Nat} (ha : a ∈ s) (hb : b ∈ s)
    (hlt : s.idxOf a < s.idxOf b) : a < b := by
  have hplaces := List.pairwise_iff_getElem.1 h _ _ (List.idxOf_lt_length_of_mem ha)
    (List.idxOf_lt_length_of_mem hb) hlt
  rwa [List.getElem_idxOf, List.getElem_idxOf] at hplaces

/-- The places of elements are ordered as the elements are. -/
theorem idxOf_lt_idxOf_iff (h : s.Pairwise (· < ·)) {a b : Nat} (ha : a ∈ s) (hb : b ∈ s) :
    s.idxOf a < s.idxOf b ↔ a < b := by
  refine ⟨lt_of_idxOf_lt h ha hb, fun hlt => ?_⟩
  rcases Nat.lt_trichotomy (s.idxOf a) (s.idxOf b) with hplace | hplace | hplace
  · exact hplace
  · exact absurd ((List.idxOf_inj ha).1 hplace) (Nat.ne_of_lt hlt)
  · exact absurd (lt_of_idxOf_lt h hb ha hplace) (Nat.lt_asymm hlt)

end LogAnomaly
