import LogAnomaly.Cluster.EditDistance
import Mathlib.Data.List.Induction

/-!
# The edit distance

* `editDistance`: the least number of insertions, deletions and substitutions between two lists, by
  its recursion from the front;
* `editDistance_concat`: the same recursion from the end, which is the order of the table;
* `boundedDistance_eq`: `boundedDistance` is the edit distance up to its limit.

A row of the table holds the distances of one prefix of the longer list to every prefix of the
shorter one (`prefixRow`). Once all cells of a row lie beyond the limit, so do those of every later
row (`lt_editDistance_append`), which is why the search may end there.
-/

namespace LogAnomaly

variable {α : Type} [DecidableEq α]

/-- What it costs to put one token in the place of another. -/
def tokenCost (x y : α) : Nat := if x = y then 0 else 1

/-- The least number of insertions, deletions and substitutions that turn one list into the
other. -/
def editDistance : List α → List α → Nat
  | [], b => b.length
  | x :: a, [] => (x :: a).length
  | x :: a, y :: b =>
    min (min (editDistance a b + tokenCost x y) (editDistance a (y :: b) + 1))
      (editDistance (x :: a) b + 1)
termination_by a b => a.length + b.length

@[simp] theorem editDistance_nil_left (b : List α) : editDistance [] b = b.length := by
  rw [editDistance]

@[simp] theorem editDistance_nil_right (a : List α) : editDistance a [] = a.length := by
  cases a <;> simp [editDistance]

theorem editDistance_cons (x y : α) (a b : List α) :
    editDistance (x :: a) (y :: b) =
      min (min (editDistance a b + tokenCost x y) (editDistance a (y :: b) + 1))
        (editDistance (x :: a) b + 1) := by
  rw [editDistance]

theorem tokenCost_comm (x y : α) : tokenCost x y = tokenCost y x := by
  simp only [tokenCost, eq_comm]

theorem editDistance_self (a : List α) : editDistance a a = 0 := by
  induction a with
  | nil => simp
  | cons x a ih =>
    rw [editDistance_cons, ih, show tokenCost x x = 0 by simp [tokenCost]]
    omega

theorem editDistance_comm (a b : List α) : editDistance a b = editDistance b a := by
  induction a generalizing b with
  | nil => simp
  | cons x a iha =>
    induction b with
    | nil => simp
    | cons y b ihb =>
      rw [editDistance_cons, editDistance_cons, iha b, iha (y :: b), ihb, tokenCost_comm x y]
      omega

/-- Two lists are at least as far apart as their lengths. -/
theorem length_le_editDistance (a b : List α) : b.length ≤ editDistance a b + a.length := by
  induction a generalizing b with
  | nil => simp
  | cons x a iha =>
    induction b with
    | nil => simp
    | cons y b ihb =>
      have h₁ := iha b
      have h₂ := iha (y :: b)
      rw [editDistance_cons]
      simp only [List.length_cons] at *
      omega

/-- The recursion from the end, if one list has a single token. -/
theorem editDistance_singleton_concat (x y : α) (b : List α) :
    editDistance [x] (b ++ [y]) =
      min (min (b.length + tokenCost x y) (b.length + 1 + 1)) (editDistance [x] b + 1) := by
  induction b with
  | nil => rw [List.nil_append, editDistance_cons]; simp
  | cons z b ih =>
    rw [List.cons_append, editDistance_cons, editDistance_cons, ih]
    simp only [editDistance_nil_left, List.length_append, List.length_cons, List.length_nil]
    omega

theorem editDistance_concat (x y : α) (a b : List α) :
    editDistance (a ++ [x]) (b ++ [y]) =
      min (min (editDistance a b + tokenCost x y) (editDistance a (b ++ [y]) + 1))
        (editDistance (a ++ [x]) b + 1) := by
  induction a generalizing b with
  | nil => simpa using editDistance_singleton_concat x y b
  | cons z a iha =>
    induction b with
    | nil =>
      have := editDistance_singleton_concat y x (z :: a)
      rw [editDistance_comm [y], editDistance_comm [y]] at this
      rw [List.nil_append, this, tokenCost_comm y x]
      simp only [editDistance_nil_right, List.length_append, List.length_cons, List.length_nil]
      omega
    | cons u b ihb =>
      have ha := iha b
      have hau := iha (u :: b)
      simp only [List.cons_append] at ha hau ihb ⊢
      -- both sides expand to the least of the same nine sums
      rw [editDistance_cons, ha, hau, ihb, editDistance_cons z u a b,
        editDistance_cons z u a (b ++ [y]), editDistance_cons z u (a ++ [x]) b]
      simp only [← Nat.add_min_add_right]
      ac_rfl

/-! ## The rows of the table -/

/-- The distances of a list to all prefixes of another one, from a given prefix on. -/
def prefixRow (long done : List α) : List α → List Nat
  | [] => [editDistance long done]
  | s :: short => editDistance long done :: prefixRow long (done ++ [s]) short

theorem prefixRow_eq_cons (long done short : List α) :
    prefixRow long done short =
      editDistance long done :: (prefixRow long done short).tail := by
  cases short <;> rfl

theorem nextCells_prefixRow (t : α) (long done short : List α) :
    nextCells t short (editDistance long done) (prefixRow long done short).tail
        (editDistance (long ++ [t]) done) =
      (prefixRow (long ++ [t]) done short).tail := by
  induction short generalizing done with
  | nil => rfl
  | cons s short ih =>
    have hcell : min (min (editDistance long done + if t = s then 0 else 1)
        (editDistance long (done ++ [s]) + 1)) (editDistance (long ++ [t]) done + 1) =
        editDistance (long ++ [t]) (done ++ [s]) := (editDistance_concat t s long done).symm
    simp only [prefixRow, List.tail_cons]
    rw [prefixRow_eq_cons long, prefixRow_eq_cons (long ++ [t])]
    simp only [nextCells]
    rw [hcell, ih (done ++ [s])]

theorem nextRow_prefixRow (t : α) (long short : List α) :
    nextRow t short (prefixRow long [] short) = prefixRow (long ++ [t]) [] short := by
  have hfirst : editDistance long [] + 1 = editDistance (long ++ [t]) [] := by simp
  rw [prefixRow_eq_cons long, prefixRow_eq_cons (long ++ [t])]
  simp only [nextRow]
  rw [hfirst, nextCells_prefixRow]

theorem range_eq_prefixRow (done short : List α) :
    List.range' done.length (short.length + 1) = prefixRow [] done short := by
  induction short generalizing done with
  | nil => simp [prefixRow]
  | cons s short ih =>
    have := ih (done ++ [s])
    rw [List.length_append, List.length_singleton] at this
    rw [prefixRow, editDistance_nil_left, ← this, List.length_cons, List.range'_succ]

theorem getLast?_prefixRow (long done short : List α) :
    (prefixRow long done short).getLast? = some (editDistance long (done ++ short)) := by
  induction short generalizing done with
  | nil => simp [prefixRow]
  | cons s short ih =>
    rw [prefixRow, List.getLast?_cons, ih (done ++ [s])]
    simp

theorem foldl_min_le (cells : List Nat) (first : Nat) :
    cells.foldl min first ≤ first ∧ ∀ c ∈ cells, cells.foldl min first ≤ c := by
  induction cells generalizing first with
  | nil => simp
  | cons d cells ih =>
    obtain ⟨hfirst, hcells⟩ := ih (min first d)
    refine ⟨by rw [List.foldl_cons]; omega, fun c hc => ?_⟩
    rcases List.mem_cons.1 hc with rfl | hc
    · rw [List.foldl_cons]; omega
    · exact hcells c hc

theorem rowMinimum_le {row : List Nat} {c : Nat} (hc : c ∈ row) : rowMinimum row ≤ c := by
  cases row with
  | nil => simp at hc
  | cons first rest =>
    rcases List.mem_cons.1 hc with rfl | hc
    · exact (foldl_min_le rest c).1
    · exact (foldl_min_le rest first).2 c hc

theorem mem_prefixRow {long done short pre : List α} (h : pre <+: short) :
    editDistance long (done ++ pre) ∈ prefixRow long done short := by
  induction short generalizing done pre with
  | nil => simp [List.prefix_nil.1 h, prefixRow]
  | cons s short ih =>
    cases pre with
    | nil => simp [prefixRow]
    | cons p pre =>
      obtain ⟨rfl, hp⟩ := List.cons_prefix_cons.1 h
      have : editDistance long (done ++ [p] ++ pre) ∈ prefixRow long (done ++ [p]) short := ih hp
      rw [List.append_assoc, List.singleton_append] at this
      exact List.mem_cons_of_mem _ this

/-! ## The search along the longer list -/

/-- If all prefixes of a list are farther than a limit, one token more brings none of them back. -/
theorem lt_editDistance_concat {limit : Nat} {t : α} {long : List α} (short : List α)
    (h : ∀ pre, pre <+: short → limit < editDistance long pre) :
    limit < editDistance (long ++ [t]) short := by
  induction short using List.reverseRecOn with
  | nil =>
    have := h [] (List.nil_prefix ..)
    simp only [editDistance_nil_right, List.length_append] at this ⊢
    omega
  | append_singleton short s ih =>
    have hshort := ih fun pre hp => h pre (hp.trans (List.prefix_append ..))
    have h₁ := h short (List.prefix_append ..)
    have h₂ := h (short ++ [s]) List.prefix_rfl
    rw [editDistance_concat]
    omega

theorem lt_editDistance_append {limit : Nat} {long short : List α} (more : List α)
    (h : ∀ pre, pre <+: short → limit < editDistance long pre) :
    limit < editDistance (long ++ more) short := by
  induction more generalizing long with
  | nil => simpa using h short List.prefix_rfl
  | cons t more ih =>
    have : limit < editDistance (long ++ [t] ++ more) short := ih fun pre hp =>
      lt_editDistance_concat pre fun q hq => h q (hq.trans hp)
    rwa [List.append_assoc, List.singleton_append] at this

/-- The last cell of the table, or an early end because the distance lies beyond the limit. -/
theorem lastCell_prefixRow (limit : Nat) (done short long : List α) :
    lastCell limit short (prefixRow done [] short) long = editDistance (done ++ long) short ∨
      (lastCell limit short (prefixRow done [] short) long = exceeded limit ∧
        limit < editDistance (done ++ long) short) := by
  induction long generalizing done with
  | nil =>
    refine .inl ?_
    rw [lastCell, getLast?_prefixRow]
    simp
  | cons t long ih =>
    have happ : done ++ t :: long = done ++ [t] ++ long := by simp
    rw [lastCell, nextRow_prefixRow, happ]
    split
    · rename_i hmin
      refine .inr ⟨rfl, lt_editDistance_append long fun pre hp => ?_⟩
      exact Nat.lt_of_lt_of_le hmin (rowMinimum_le (mem_prefixRow hp))
    · exact ih (done ++ [t])

theorem distanceTo_eq (short long : List α) (limit : Nat) :
    distanceTo short long limit =
      if editDistance short long ≤ limit then editDistance short long else exceeded limit := by
  rw [editDistance_comm]
  unfold distanceTo
  split
  · rename_i hgap
    have := length_le_editDistance short long
    rw [editDistance_comm] at this
    rw [if_neg (by omega)]
  · rename_i hgap
    split
    · rename_i hempty
      obtain rfl := List.isEmpty_iff.1 hempty
      simp only [editDistance_nil_right]
      rw [if_pos (by simpa using hgap)]
    · have hrow : List.range (short.length + 1) = prefixRow [] [] short := by
        rw [← range_eq_prefixRow, List.range_eq_range']
        rfl
      rw [hrow]
      rcases lastCell_prefixRow limit [] short long with h | ⟨h, hlt⟩
      · rw [h, List.nil_append]
        by_cases hle : editDistance long short ≤ limit
        · rw [if_neg (by omega), if_pos hle]
        · rw [if_pos (by omega), if_neg hle]
      · rw [List.nil_append] at hlt
        rw [h, if_neg (Nat.not_le.2 hlt)]
        exact ite_self _

/-- `boundedDistance` is the edit distance as far as that does not exceed the limit. -/
theorem boundedDistance_eq (a b : List α) (limit : Nat) :
    boundedDistance a b limit =
      if editDistance a b ≤ limit then editDistance a b else exceeded limit := by
  unfold boundedDistance
  split
  · exact distanceTo_eq a b limit
  · rw [distanceTo_eq, editDistance_comm]

theorem boundedDistance_self (a : List α) (limit : Nat) : boundedDistance a a limit = 0 := by
  rw [boundedDistance_eq, editDistance_self, if_pos (Nat.zero_le _)]

theorem boundedDistance_comm (a b : List α) (limit : Nat) :
    boundedDistance a b limit = boundedDistance b a limit := by
  rw [boundedDistance_eq, boundedDistance_eq, editDistance_comm]

end LogAnomaly
