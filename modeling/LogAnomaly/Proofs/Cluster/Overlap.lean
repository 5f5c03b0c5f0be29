import LogAnomaly.Proofs.Cluster.Edits
import LogAnomaly.Proofs.Cluster.Fingerprint
import Mathlib.Algebra.Order.Round

/-!
# Tokens in common

Tolerances are read in exact numbers here.

* `max_length_le_editDistance`: without a token in common every token of the longer list takes an
  edit;
* `LinearTolerance.toTolerance_le`: a linear tolerance stays below the shorter length if at least
  one token does not count and no token counts more than once;
* `Fingerprint.overlap_of_isNear`: so texts that are close have a token in common, or no tokens.
-/

namespace LogAnomaly

/-! ## Distances -/

section Distance

variable {α : Type} [DecidableEq α]

/-- Without a common token every token of the longer list takes an edit. -/
theorem max_length_le_editDistance {a b : List α} (h : a.Disjoint b) :
    max a.length b.length ≤ editDistance a b := by
  induction a, b using editDistance.induct with
  | case1 b => simp
  | case2 x a => simp
  | case3 x a y b hreplace hdelete hinsert =>
    obtain ⟨hx, ha⟩ := List.disjoint_cons_left.1 h
    obtain ⟨hy, hb⟩ := List.disjoint_cons_right.1 ha
    have hxy : tokenCost x y = 1 := if_neg fun hxy => hx (by simp [hxy])
    have hreplaced := hreplace hb
    have hdeleted := hdelete ha
    have hinserted := hinsert (List.disjoint_cons_right.1 h).2
    rw [editDistance_cons, hxy]
    simp only [List.length_cons] at *
    omega

end Distance

/-! ## Tolerances -/

section Tolerance

variable {α : Type} [Field α] [LinearOrder α] [FloorRing α]

/-- Rounding of exact numbers: to the nearest natural number, halves up. -/
instance roundExact : RoundNat α := ⟨fun x => (round x).toNat⟩

variable [IsStrictOrderedRing α]

/-- What does not exceed a natural number is not rounded beyond it. -/
theorem roundNat_le {x : α} {n : Nat} (h : x ≤ n) : roundNat x ≤ n := by
  have hround : (round x : α) < ((n + 1 : ℤ) : α) := by
    have hhalf := round_le_add_half x
    push_cast
    linarith
  have hlt : round x < n + 1 := Int.cast_lt.1 hround
  show (round x).toNat ≤ n
  omega

/-- At least one token of the shorter length does not count, and the others count at most once. -/
theorem LinearTolerance.toTolerance_le {t : LinearTolerance α} (hdelta : 1 ≤ t.delta)
    (hfactor : 1 ≤ t.factor) (m n : Nat) : t.toTolerance m n ≤ min m n - 1 := by
  unfold LinearTolerance.toTolerance
  extract_lets spare counted
  have hcounted : 0 ≤ counted ∧ counted ≤ ((min m n - 1 : Nat) : α) := by
    unfold counted
    split
    · rename_i hpos
      rw [Nat.cast_zero] at hpos
      have hone : ((1 : Nat) : α) < ((min m n : Nat) : α) := by
        rw [Nat.cast_one]
        exact hdelta.trans_lt (sub_pos.1 hpos)
      rw [Nat.cast_sub (Nat.cast_lt.1 hone).le, Nat.cast_one]
      exact ⟨hpos.le, sub_le_sub_left hdelta _⟩
    · exact ⟨Nat.cast_nonneg 0, Nat.cast_le.2 (Nat.zero_le _)⟩
  exact roundNat_le ((div_le_self hcounted.1 hfactor).trans hcounted.2)

end Tolerance

/-! ## Fingerprints -/

/-- Two lists of tokens have one in common, or neither has any. -/
def Overlap (s t : List String) : Prop := (∃ token ∈ s, token ∈ t) ∨ (s = [] ∧ t = [])

/-- Texts that are close within a tolerance below the shorter length have a token in common. As many
tokens as a text may have can be counted. -/
theorem Fingerprint.overlap_of_isNear {tolerance : Tolerance} {known other : Fingerprint}
    (htolerance : ∀ m n, tolerance m n ≤ min m n - 1) (hcount : other.tokens.length ≤ maxWord)
    (h : known.isNear tolerance other = true) : Overlap known.tokens other.tokens := by
  by_contra hnone
  obtain ⟨hcommon, hempty⟩ := not_or.1 hnone
  have hdisjoint : known.tokens.Disjoint other.tokens := fun token hs ht =>
    hcommon ⟨token, hs, ht⟩
  have hfar := max_length_le_editDistance hdisjoint
  have hsome : 0 < max known.tokens.length other.tokens.length := by
    by_contra hzero
    exact hempty ⟨List.eq_nil_of_length_eq_zero (by omega),
      List.eq_nil_of_length_eq_zero (by omega)⟩
  have hlimit := htolerance known.tokens.length other.tokens.length
  -- the distance is beyond the limit, and so is what stands for it
  have hbounded : boundedDistance known.tokens other.tokens
      (tolerance known.tokens.length other.tokens.length) ≤
      tolerance known.tokens.length other.tokens.length :=
    of_decide_eq_true (Bool.and_eq_true_iff.1 h).1
  rw [boundedDistance_eq, if_neg (by omega), exceeded] at hbounded
  have hword : 0 < maxWord := by decide
  omega

end LogAnomaly
