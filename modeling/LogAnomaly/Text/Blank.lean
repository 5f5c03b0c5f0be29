import LogAnomaly.Text.CodeRange

/-!
# White space

Texts are cut at the characters of the Unicode property White_Space and at no others.

* `isBlank`: the property;
* `trim`, `trimBlank`: a text without the blanks at its two ends;
* `words`, `splitBlank`: the longest runs of characters that are not blank. No word is empty
  and none holds a blank (`splitBlank_ne_nil`, `splitBlank_not_blank`).
-/

namespace LogAnomaly.Text

/-- The runs of the property White_Space. -/
def blankRanges : List (Nat × Nat) :=
  [(0x9, 0xD), (0x20, 0x20), (0x85, 0x85), (0xA0, 0xA0), (0x1680, 0x1680), (0x2000, 0x200A),
   (0x2028, 0x2029), (0x202F, 0x202F), (0x205F, 0x205F), (0x3000, 0x3000)]

/-- Unicode White_Space. -/
def isBlank (c : Char) : Bool := covers blankRanges c

/-- Drops the elements at the end that satisfy `p`. -/
def dropEndWhile {α : Type} (p : α → Bool) (s : List α) : List α :=
  (s.reverse.dropWhile p).reverse

/-- Drops the blanks at both ends. -/
def trimBlank (s : List Char) : List Char := dropEndWhile isBlank (s.dropWhile isBlank)

/-- Puts a finished word in front of the words that follow it, an empty one left out. -/
def closeWord (word : List Char) (words : List (List Char)) : List (List Char) :=
  if word.isEmpty then words else word :: words

/-- The word that a text begins with, empty if it begins with a blank, and the words after it. -/
def firstWord : List Char → List Char × List (List Char)
  | [] => ([], [])
  | c :: rest =>
    let (word, words) := firstWord rest
    if isBlank c then ([], closeWord word words) else (c :: word, words)

/-- The longest runs of characters that are not blank, in order. -/
def splitBlank (s : List Char) : List (List Char) :=
  closeWord (firstWord s).1 (firstWord s).2

/-- A text without the blanks at its ends. -/
def trim (text : String) : String := String.ofList (trimBlank text.toList)

/-- The words of a text. -/
def words (text : String) : List String := (splitBlank text.toList).map String.ofList

theorem closeWord_nil (ws : List (List Char)) : closeWord [] ws = ws := rfl

theorem closeWord_cons (c : Char) (w : List Char) (ws : List (List Char)) :
    closeWord (c :: w) ws = (c :: w) :: ws := rfl

theorem mem_closeWord {x w : List Char} {ws : List (List Char)} (h : x ∈ closeWord w ws) :
    (x = w ∧ w ≠ []) ∨ x ∈ ws := by
  cases w with
  | nil => exact .inr h
  | cons c w => simpa [closeWord] using h

theorem firstWord_not_blank (s : List Char) : ∀ c ∈ (firstWord s).1, isBlank c = false := by
  induction s with
  | nil => simp [firstWord]
  | cons c rest ih =>
    by_cases h : isBlank c
    · simp [firstWord, h]
    · simp only [firstWord, h, Bool.false_eq_true, if_false, List.mem_cons, forall_eq_or_imp]
      exact ⟨by simp, ih⟩

theorem splitBlank_words (s : List Char) :
    ∀ w ∈ (firstWord s).2, w ≠ [] ∧ ∀ c ∈ w, isBlank c = false := by
  induction s with
  | nil => simp [firstWord]
  | cons c rest ih =>
    by_cases h : isBlank c
    · simp only [firstWord, h, if_true]
      intro w hw
      rcases mem_closeWord hw with ⟨rfl, hne⟩ | hw
      · exact ⟨hne, firstWord_not_blank rest⟩
      · exact ih w hw
    · simpa [firstWord, h] using ih

/-- No word is empty. -/
theorem splitBlank_ne_nil {s w : List Char} (h : w ∈ splitBlank s) : w ≠ [] := by
  rcases mem_closeWord h with ⟨rfl, hne⟩ | hw
  · exact hne
  · exact (splitBlank_words s w hw).1

/-- No word holds a blank. -/
theorem splitBlank_not_blank {s w : List Char} (h : w ∈ splitBlank s) :
    ∀ c ∈ w, isBlank c = false := by
  rcases mem_closeWord h with ⟨rfl, -⟩ | hw
  · exact firstWord_not_blank s
  · exact (splitBlank_words s w hw).2

end LogAnomaly.Text
