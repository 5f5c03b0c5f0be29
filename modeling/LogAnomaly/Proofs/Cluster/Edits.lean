import LogAnomaly.Proofs.Cluster.EditDistance
import Mathlib.Order.Bounds.Defs

/-!
# Edits

What the edit distance counts.

* `Edit`: a token is put into a list, taken out of it or replaced by another one, at any place;
* `EditedIn`: a number of edits, one after the other;
* `editDistance_le_of_edit`, `editedIn_editDistance`: no edit saves more than one, and as many edits
  as the distance are enough;
* `isLeast_editDistance`: so the edit distance is the least number of edits;
* `boundedDistance_least_edits`: what a limit makes of it.
-/

namespace LogAnomaly

variable {α : Type}

/-- One token of a list is added, removed or replaced. -/
inductive Edit : List α → List α → Prop where
  | insert (before after : List α) (x : α) : Edit (before ++ after) (before ++ x :: after)
  | delete (before after : List α) (x : α) : Edit (before ++ x :: after) (before ++ after)
  | substitute (before after : List α) (x y : α) :
    Edit (before ++ x :: after) (before ++ y :: after)

/-- A number of edits turns one list into another. -/
inductive EditedIn : Nat → List α → List α → Prop where
  | refl (a : List α) : EditedIn 0 a a
  | step {n : Nat} {a b c : List α} : Edit a b → EditedIn n b c → EditedIn (n + 1) a c

/-- Edits leave a first token alone. -/
theorem Edit.cons {a b : List α} (x : α) (h : Edit a b) : Edit (x :: a) (x :: b) := by
  cases h with
  | insert before after y => exact .insert (x :: before) after y
  | delete before after y => exact .delete (x :: before) after y
  | substitute before after y z => exact .substitute (x :: before) after y z

theorem EditedIn.cons {n : Nat} {a b : List α} (x : α) (h : EditedIn n a b) :
    EditedIn n (x :: a) (x :: b) := by
  induction h with
  | refl a => exact .refl (x :: a)
  | step hedit _ ih => exact .step (hedit.cons x) ih

theorem editedIn_nil_left (b : List α) : EditedIn b.length [] b := by
  induction b with
  | nil => exact .refl []
  | cons y b ih => exact .step (.insert [] [] y) (ih.cons y)

theorem editedIn_nil_right (a : List α) : EditedIn a.length a [] := by
  induction a with
  | nil => exact .refl []
  | cons x a ih => exact .step (.delete [] a x) ih

variable [DecidableEq α]

/-! ## No edit saves more than one -/

theorem editDistance_cons_le (x : α) (a c : List α) :
    editDistance (x :: a) c ≤ editDistance a c + 1 := by
  cases c with
  | nil => simp
  | cons y c => rw [editDistance_cons]; omega

theorem editDistance_le_cons (x : α) (a c : List α) :
    editDistance a c ≤ editDistance (x :: a) c + 1 := by
  induction c with
  | nil => simp; omega
  | cons y c ih =>
    have hy := editDistance_cons_le y c a
    rw [editDistance_comm, editDistance_comm c] at hy
    rw [editDistance_cons]
    omega

theorem editDistance_replace_le (x y : α) (a c : List α) :
    editDistance (x :: a) c ≤ editDistance (y :: a) c + 1 := by
  induction c with
  | nil => simp
  | cons z c ih =>
    have hcost : tokenCost x z ≤ 1 := by unfold tokenCost; split <;> omega
    rw [editDistance_cons, editDistance_cons y]
    omega

/-- A token that both lists begin with saves no more. -/
theorem editDistance_cons_cons_le {a b : List α} (x : α)
    (h : ∀ c, editDistance a c ≤ editDistance b c + 1) (c : List α) :
    editDistance (x :: a) c ≤ editDistance (x :: b) c + 1 := by
  induction c with
  | nil => simpa using h []
  | cons y c ih =>
    have hc := h c
    have hyc := h (y :: c)
    rw [editDistance_cons, editDistance_cons x y b]
    omega

theorem editDistance_append_le {a b : List α} (before : List α)
    (h : ∀ c, editDistance a c ≤ editDistance b c + 1) (c : List α) :
    editDistance (before ++ a) c ≤ editDistance (before ++ b) c + 1 := by
  induction before generalizing c with
  | nil => exact h c
  | cons x before ih => exact editDistance_cons_cons_le x ih c

theorem editDistance_le_of_edit {a b : List α} (h : Edit a b) (c : List α) :
    editDistance a c ≤ editDistance b c + 1 := by
  cases h with
  | insert before after x => exact editDistance_append_le before (editDistance_le_cons x after) c
  | delete before after x => exact editDistance_append_le before (editDistance_cons_le x after) c
  | substitute before after x y =>
    exact editDistance_append_le before (editDistance_replace_le x y after) c

theorem editDistance_le_of_editedIn {n : Nat} {a b : List α} (h : EditedIn n a b) :
    editDistance a b ≤ n := by
  induction h with
  | refl a => exact Nat.le_of_eq (editDistance_self a)
  | step hedit _ ih =>
    exact Nat.le_trans (editDistance_le_of_edit hedit _) (Nat.succ_le_succ ih)

/-! ## As many edits are enough -/

/-- A first token is replaced at its cost. -/
theorem EditedIn.cons_cons {n : Nat} {a b : List α} (x y : α) (h : EditedIn n a b) :
    EditedIn (n + tokenCost x y) (x :: a) (y :: b) := by
  by_cases hxy : x = y
  · subst hxy
    rw [tokenCost, if_pos rfl]
    exact h.cons x
  · rw [tokenCost, if_neg hxy]
    exact .step (.substitute [] a x y) (h.cons y)

theorem editedIn_editDistance (a b : List α) : EditedIn (editDistance a b) a b := by
  induction a, b using editDistance.induct with
  | case1 b => simpa using editedIn_nil_left b
  | case2 x a => simpa using editedIn_nil_right (x :: a)
  | case3 x a y b hreplace hdelete hinsert =>
    have hfirst := hreplace.cons_cons x y
    have hdeleted : EditedIn (editDistance a (y :: b) + 1) (x :: a) (y :: b) :=
      .step (.delete [] a x) hdelete
    have hinserted : EditedIn (editDistance (x :: a) b + 1) (x :: a) (y :: b) :=
      .step (.insert [] (x :: a) y) (hinsert.cons y)
    have hmin : ∀ {k l}, EditedIn k (x :: a) (y :: b) → EditedIn l (x :: a) (y :: b) →
        EditedIn (min k l) (x :: a) (y :: b) := fun hk hl => by
      rw [Nat.min_def]
      split <;> assumption
    rw [editDistance_cons]
    exact hmin (hmin hfirst hdeleted) hinserted

theorem isLeast_editDistance (a b : List α) : IsLeast {n | EditedIn n a b} (editDistance a b) :=
  ⟨editedIn_editDistance a b, fun _ h => editDistance_le_of_editedIn h⟩

/-! ## The bounded distance -/

/-- Two lists are no farther apart than the longer one is long. -/
theorem editDistance_le_max (a b : List α) : editDistance a b ≤ max a.length b.length := by
  induction a, b using editDistance.induct with
  | case1 b => simp
  | case2 x a => simp
  | case3 x a y b hreplace _ _ =>
    have hcost : tokenCost x y ≤ 1 := by unfold tokenCost; split <;> omega
    rw [editDistance_cons, List.length_cons, List.length_cons]
    omega

/-- The bounded distance is the least number of insertions, deletions and substitutions that turn
one list into the other, as far as it does not exceed the limit, and beyond it one more than the
limit or the greatest word. It is the same for both orders of the lists, and it tells whether the
least number exceeds the limit, since words count the tokens of a list. -/
theorem boundedDistance_least_edits (a b : List α) (limit : Nat) :
    IsLeast {n | EditedIn n a b} (editDistance a b) ∧
      boundedDistance a b limit =
        (if editDistance a b ≤ limit then editDistance a b else min (limit + 1) maxWord) ∧
      boundedDistance a b limit = boundedDistance b a limit ∧
      (a.length ≤ maxWord → b.length ≤ maxWord →
        (boundedDistance a b limit ≤ limit ↔ editDistance a b ≤ limit)) := by
  refine ⟨isLeast_editDistance a b, boundedDistance_eq a b limit, boundedDistance_comm a b limit,
    fun ha hb => ?_⟩
  have hmax := editDistance_le_max a b
  rw [boundedDistance_eq]
  split
  · rfl
  · rename_i hfar
    -- a distance that words can count exceeds no limit that is the greatest word
    rw [exceeded]
    omega

/-- Two words have changed places, which takes two edits. -/
theorem boundedDistance_least_edits_swapped :
    let a := ["link", "up", "again"]
    let b := ["link", "again", "up"]
    a.length ≤ maxWord ∧ b.length ≤ maxWord ∧ boundedDistance a b 1 = 2 ∧
      IsLeast {n | EditedIn n a b} 2 ∧ ¬ boundedDistance a b 1 ≤ 1 := by
  intro a b
  have ha : a.length ≤ maxWord := by decide
  have hb : b.length ≤ maxWord := by decide
  have htwo : boundedDistance a b 2 = 2 := by decide
  obtain ⟨hleast, -, -, htells⟩ := boundedDistance_least_edits a b 2
  have hdistance : editDistance a b = 2 := by
    have hle := (htells ha hb).1 (Nat.le_of_eq htwo)
    have heq := boundedDistance_eq a b 2
    rw [if_pos hle, htwo] at heq
    exact heq.symm
  refine ⟨ha, hb, by decide, hdistance ▸ hleast, ?_⟩
  obtain ⟨-, -, -, htells⟩ := boundedDistance_least_edits a b 1
  rw [htells ha hb, hdistance]
  decide

end LogAnomaly
