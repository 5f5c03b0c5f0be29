/-!
# Pieces of a text

* `pieces`: what stands between the occurrences of a character; there is always at least one
  piece, and none holds the character (`pieces_ne_nil`, `pieces_not_mem`).
-/

namespace LogAnomaly.Text

/-- Puts a character in front of the first piece. -/
def pushFirst (c : Char) : List (List Char) → List (List Char)
  | [] => [[c]]
  | piece :: rest => (c :: piece) :: rest

/-- What stands between the occurrences of `separator`. -/
def pieces (separator : Char) : List Char → List (List Char)
  | [] => [[]]
  | c :: rest =>
    if c = separator then [] :: pieces separator rest else pushFirst c (pieces separator rest)

theorem pieces_ne_nil (separator : Char) (s : List Char) : pieces separator s ≠ [] := by
  induction s with
  | nil => simp [pieces]
  | cons c rest ih =>
    unfold pieces
    split
    · simp
    · unfold pushFirst
      split <;> simp

/-- No piece holds the separator. -/
theorem pieces_not_mem {separator : Char} {s p : List Char} (h : p ∈ pieces separator s) :
    separator ∉ p := by
  induction s generalizing p with
  | nil => simp_all [pieces]
  | cons c rest ih =>
    unfold pieces at h
    split at h
    · rcases List.mem_cons.1 h with rfl | h
      · simp
      · exact ih h
    · rename_i hc
      unfold pushFirst at h
      split at h
      · simp_all [pieces_ne_nil]
      · rename_i piece others he
        rcases List.mem_cons.1 h with rfl | h
        · have := ih (p := piece) (by simp [he])
          simp [Ne.symm hc, this]
        · exact ih (by simp [he, h])

end LogAnomaly.Text
