import LogAnomaly.Word

/-!
# Distance of token lists

* `boundedDistance`: the least number of insertions, deletions and substitutions that turn one list
  of tokens into the other, as far as it does not exceed a limit.

The table of distances between prefixes is built row by row along the longer list, one cell for
each prefix of the shorter one.
-/

namespace LogAnomaly

/-- What stands for every distance beyond the limit. -/
def exceeded (limit : Nat) : Nat := min (limit + 1) maxWord

variable {α : Type} [DecidableEq α]

/-- The cells of a row after its first one. `diagonal` is the cell above the one to the left, the
list in the third place holds the cells above from there on, and `left` is the cell to the
left. -/
def nextCells (token : α) (short : List α) (diagonal : Nat) (above : List Nat) (left : Nat) :
    List Nat :=
  match short, above with
  | s :: short, up :: above =>
    let cell := min (min (diagonal + if token = s then 0 else 1) (up + 1)) (left + 1)
    cell :: nextCells token short up above cell
  | _, _ => []

/-- The row after `row`, for one more token of the longer list. -/
def nextRow (token : α) (short : List α) : List Nat → List Nat
  | [] => []
  | first :: above => (first + 1) :: nextCells token short first above (first + 1)

/-- The least cell of a row. -/
def rowMinimum : List Nat → Nat
  | [] => 0
  | first :: rest => rest.foldl min first

/-- The last cell after the remaining tokens of the longer list; no distance falls below the
least cell of a row, so the first row that lies beyond the limit ends the search. -/
def lastCell (limit : Nat) (short : List α) : List Nat → List α → Nat
  | row, [] => row.getLast?.getD 0
  | row, token :: long =>
    let next := nextRow token short row
    if limit < rowMinimum next then exceeded limit else lastCell limit short next long

/-- The distance of a list to one that is not shorter. -/
def distanceTo (short long : List α) (limit : Nat) : Nat :=
  if limit < long.length - short.length then exceeded limit
  else if short.isEmpty then long.length
  else
    let distance := lastCell limit short (List.range (short.length + 1)) long
    if limit < distance then exceeded limit else distance

/-- The edit distance of two lists up to `limit`, and `exceeded limit` beyond it. -/
def boundedDistance (a b : List α) (limit : Nat) : Nat :=
  if a.length ≤ b.length then distanceTo a b limit else distanceTo b a limit

end LogAnomaly
