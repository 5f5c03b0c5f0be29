import LogAnomaly.Text.Blank
import Mathlib.Data.List.DropRight

/-!
# Words between blanks

All about the words of a text follows from `splitBlank_append_blank`: a text falls apart at each
blank.

* `splitBlank_intercalate`: words with single spaces between them are read back;
* `length_splitBlank_le`: there are no more words than characters;
* `trimBlank_trimBlank`: a trimmed text has no blanks at its ends.
-/

namespace LogAnomaly.Text

theorem closeWord_append (w : List Char) (ws more : List (List Char)) :
    closeWord w (ws ++ more) = closeWord w ws ++ more := by
  cases w <;> rfl

theorem firstWord_append_blank {b : Char} (hb : isBlank b = true) (s t : List Char) :
    firstWord (s ++ b :: t) = ((firstWord s).1, (firstWord s).2 ++ splitBlank t) := by
  induction s with
  | nil => simp [firstWord, hb, splitBlank]
  | cons c s ih =>
    by_cases hc : isBlank c
    · simp [firstWord, hc, ih, closeWord_append]
    · simp [firstWord, hc, ih]

/-- A text falls apart at each blank. -/
theorem splitBlank_append_blank {b : Char} (hb : isBlank b = true) (s t : List Char) :
    splitBlank (s ++ b :: t) = splitBlank s ++ splitBlank t := by
  rw [splitBlank, firstWord_append_blank hb, closeWord_append]
  rfl

theorem firstWord_word {w : List Char} (h : ∀ c ∈ w, isBlank c = false) :
    firstWord w = (w, []) := by
  induction w with
  | nil => rfl
  | cons c w ih =>
    obtain ⟨hc, hw⟩ := List.forall_mem_cons.1 h
    rw [firstWord, ih hw, hc]
    rfl

/-- A word is a text of one word. -/
theorem splitBlank_word {w : List Char} (hne : w ≠ []) (h : ∀ c ∈ w, isBlank c = false) :
    splitBlank w = [w] := by
  rw [splitBlank, firstWord_word h]
  obtain ⟨c, w, rfl⟩ := List.exists_cons_of_ne_nil hne
  rw [closeWord_cons]

/-- Words with single spaces between them are read back. -/
theorem splitBlank_intercalate {ws : List (List Char)}
    (h : ∀ w ∈ ws, w ≠ [] ∧ ∀ c ∈ w, isBlank c = false) :
    splitBlank ([' '].intercalate ws) = ws := by
  induction ws with
  | nil => rfl
  | cons w ws ih =>
    obtain ⟨⟨hne, hw⟩, hws⟩ := List.forall_mem_cons.1 h
    cases ws with
    | nil => rw [List.intercalate_singleton, splitBlank_word hne hw]
    | cons v ws =>
      have hspace : isBlank ' ' = true := by decide
      rw [List.intercalate_cons_cons, List.append_assoc, List.singleton_append,
        splitBlank_append_blank hspace, splitBlank_word hne hw, ih hws]
      rfl

theorem length_closeWord_le (w : List Char) (ws : List (List Char)) :
    (closeWord w ws).length ≤ w.length + ws.length := by
  cases w with
  | nil => rw [closeWord_nil, List.length_nil, Nat.zero_add]
  | cons c w =>
    rw [closeWord_cons, List.length_cons, List.length_cons]
    omega

/-- Each word after the first one takes a character at least. -/
theorem length_firstWord_le (s : List Char) :
    (firstWord s).1.length + (firstWord s).2.length ≤ s.length := by
  induction s with
  | nil => exact Nat.le_refl _
  | cons c s ih =>
    have hrest := length_closeWord_le (firstWord s).1 (firstWord s).2
    by_cases hc : isBlank c
    · simp only [firstWord, hc, if_true, List.length_nil, List.length_cons]
      omega
    · simp only [firstWord, hc, Bool.false_eq_true, if_false, List.length_cons]
      omega

/-- No word is empty, so there are no more words than characters. -/
theorem length_splitBlank_le (s : List Char) : (splitBlank s).length ≤ s.length :=
  (length_closeWord_le _ _).trans (length_firstWord_le s)

/-- A trimmed text has no blanks at its ends. -/
theorem trimBlank_trimBlank (s : List Char) : trimBlank (trimBlank s) = trimBlank s := by
  set rest := s.dropWhile isBlank with hrest
  -- what is dropped behind leaves the first character alone
  have hfront : (rest.rdropWhile isBlank).dropWhile isBlank = rest.rdropWhile isBlank := by
    rw [List.dropWhile_eq_self_iff]
    intro hlen
    have hbegins := List.rdropWhile_prefix isBlank rest
    rw [hbegins.getElem hlen]
    have hself : rest.dropWhile isBlank = rest := List.dropWhile_idempotent isBlank s
    exact List.dropWhile_eq_self_iff.1 hself (Nat.lt_of_lt_of_le hlen hbegins.length_le)
  have htrim : trimBlank s = rest.rdropWhile isBlank := rfl
  have hagain : trimBlank (rest.rdropWhile isBlank) =
      ((rest.rdropWhile isBlank).dropWhile isBlank).rdropWhile isBlank := rfl
  rw [htrim, hagain, hfront, List.rdropWhile_idempotent]

end LogAnomaly.Text
