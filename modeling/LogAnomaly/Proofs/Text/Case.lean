import LogAnomaly.Text.Case

/-!
# Small letters

* `Caseless`: characters that have no case, as punctuation;
* `lowerFrom_append_left`, `lowerFrom_append_right`: caseless characters at the ends of a text stay,
  and what is between them is lowered as if they were not there, the final sigma included;
* `SmallForm`: what a character can become;
* `lowerFrom_cons`, `lowerFrom_concat`: a lowered text begins with a small form of its first
  character and ends with one of its last character.
-/

namespace LogAnomaly.Text

/-! ## Characters without case -/

/-- A character that has no case. -/
structure Caseless (c : Char) : Prop where
  isCased_eq : isCased c = false
  lowerChar_eq : lowerChar c = [c]
  ne_sigma : c ≠ 'Σ'

theorem lowerFrom_caseless {s : List Char} (h : ∀ c ∈ s, Caseless c) (afterCased : Bool) :
    lowerFrom afterCased s = s := by
  induction s generalizing afterCased with
  | nil => rfl
  | cons c s ih =>
    have hc := h c List.mem_cons_self
    have hsigma : (c == 'Σ') = false := by simpa using hc.ne_sigma
    rw [lowerFrom, hsigma, hc.lowerChar_eq, ih fun d hd => h d (List.mem_cons_of_mem _ hd)]
    rfl

theorem lowerFrom_append_left {lead : List Char} (h : ∀ c ∈ lead, Caseless c) (s : List Char) :
    lowerFrom false (lead ++ s) = lead ++ lowerFrom false s := by
  induction lead with
  | nil => rfl
  | cons c lead ih =>
    have hc := h c List.mem_cons_self
    have hsigma : (c == 'Σ') = false := by simpa using hc.ne_sigma
    have hafter : (if isCaseIgnorable c then false else isCased c) = false := by
      rw [hc.isCased_eq, ite_self]
    rw [List.cons_append, lowerFrom, hsigma, hc.lowerChar_eq, hafter,
      ih fun d hd => h d (List.mem_cons_of_mem _ hd)]
    rfl

theorem casedNext_cons (c : Char) (rest : List Char) :
    casedNext (c :: rest) = if isCaseIgnorable c then casedNext rest else isCased c := by
  unfold casedNext
  rw [List.dropWhile_cons]
  by_cases hc : isCaseIgnorable c = true
  · rw [if_pos hc, if_pos hc]
  · rw [if_neg hc, if_neg hc]

/-- What is caseless puts no cased letter after a text. -/
theorem casedNext_append {trail : List Char} (h : ∀ c ∈ trail, Caseless c) (s : List Char) :
    casedNext (s ++ trail) = casedNext s := by
  induction s with
  | nil =>
    rw [List.nil_append]
    induction trail with
    | nil => rfl
    | cons c trail ih =>
      rw [casedNext_cons, ih fun d hd => h d (List.mem_cons_of_mem _ hd),
        (h c List.mem_cons_self).isCased_eq]
      exact ite_self _
  | cons c s ih => rw [List.cons_append, casedNext_cons, casedNext_cons, ih]

theorem lowerFrom_append_right {trail : List Char} (h : ∀ c ∈ trail, Caseless c) (s : List Char)
    (afterCased : Bool) : lowerFrom afterCased (s ++ trail) = lowerFrom afterCased s ++ trail := by
  induction s generalizing afterCased with
  | nil => exact lowerFrom_caseless h afterCased
  | cons c s ih =>
    rw [List.cons_append, lowerFrom, lowerFrom, casedNext_append h, ih, List.append_assoc]

/-! ## Small forms -/

/-- What a character can become: its small letters, or one of the two small sigmas. -/
inductive SmallForm : Char → List Char → Prop where
  | alone (c : Char) : SmallForm c (lowerChar c)
  | sigma : SmallForm 'Σ' ['σ']
  | finalSigma : SmallForm 'Σ' ['ς']

theorem smallForm_image (final : Bool) (c : Char) :
    SmallForm c (if c == 'Σ' then [if final then 'ς' else 'σ'] else lowerChar c) := by
  split
  · rename_i hc
    obtain rfl := beq_iff_eq.1 hc
    cases final with
    | false => exact .sigma
    | true => exact .finalSigma
  · exact .alone c

theorem lowerFrom_cons (afterCased : Bool) (c : Char) (s : List Char) :
    ∃ form after, lowerFrom afterCased (c :: s) = form ++ lowerFrom after s ∧ SmallForm c form :=
  ⟨_, _, rfl, smallForm_image _ c⟩

theorem lowerFrom_concat (afterCased : Bool) (s : List Char) (c : Char) :
    ∃ before form, lowerFrom afterCased (s ++ [c]) = before ++ form ∧ SmallForm c form := by
  induction s generalizing afterCased with
  | nil => exact ⟨[], _, List.append_nil _, smallForm_image _ c⟩
  | cons d s ih =>
    obtain ⟨first, after, heq, -⟩ := lowerFrom_cons afterCased d (s ++ [c])
    obtain ⟨before, form, hbefore, hform⟩ := ih after
    refine ⟨first ++ before, form, ?_, hform⟩
    rw [List.cons_append, heq, hbefore, List.append_assoc]

theorem lowerChar_ne_nil (c : Char) : lowerChar c ≠ [] := by
  have hsequences : ∀ entry ∈ lowerSequences, entry.2 ≠ [] := by decide
  unfold lowerChar mapCase
  split
  · rename_i image himage
    obtain ⟨before, after, hentries, -⟩ := List.lookup_eq_some_iff.1 himage
    simpa using hsequences (c.toNat, image) (by simp [hentries])
  · split <;> simp

theorem SmallForm.ne_nil {c : Char} {form : List Char} (h : SmallForm c form) : form ≠ [] := by
  cases h with
  | alone => exact lowerChar_ne_nil c
  | sigma => simp
  | finalSigma => simp

end LogAnomaly.Text
