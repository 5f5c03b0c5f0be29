import LogAnomaly.Arithmetic

/-!
# Square matrices

* `SquareMatrix`: a square matrix in one array, row by row;
* `SquareMatrix.get?`, `SquareMatrix.set?`: a cell by its place in the array, so that a column past
  the end of a row continues in the next one;
* `SquareMatrix.overallMean?`, `SquareMatrix.pairMean?`: means of cells, none if a cell is
  missing. The array of a matrix that was read from a document need not have the right length.
-/

namespace LogAnomaly

/-- A square matrix, row by row. -/
structure SquareMatrix (α : Type) where
  size : Nat
  data : Array α

/-- The pairs of an element and a later one, in the order of the first and then of the second. -/
def pairs {β : Type} : List β → List (β × β)
  | [] => []
  | a :: rest => rest.map (fun b => (a, b)) ++ pairs rest

namespace SquareMatrix

variable {α : Type}

/-- A matrix with the same value in all cells. -/
def constant (size : Nat) (value : α) : SquareMatrix α := ⟨size, .replicate (size * size) value⟩

/-- A matrix from its cells. -/
def ofCells {n : Nat} (cell : Fin n → Fin n → α) : SquareMatrix α :=
  ⟨n, (Vector.ofFn fun i => Vector.ofFn (cell i)).flatten.toArray⟩

theorem size_data_ofCells {n : Nat} (cell : Fin n → Fin n → α) :
    (ofCells cell).data.size = n * n := by
  simp [ofCells]

/-- A matrix from its rows, as many cells of each as there are rows; none if a row is too short. -/
def ofRows? (rows : List (List α)) : Option (SquareMatrix α) :=
  let size := rows.length
  if rows.all fun row => size ≤ row.length then
    some ⟨size, (rows.map fun row => row.take size).flatten.toArray⟩
  else none

/-- The cell in a row and a column. -/
def get? (m : SquareMatrix α) (i j : Nat) : Option α := m.data[i * m.size + j]?

/-- Writes a cell. -/
def set? (i j : Nat) (value : α) (m : SquareMatrix α) : Option (SquareMatrix α) :=
  let place := i * m.size + j
  if h : place < m.data.size then some { m with data := m.data.set place value h } else none

/-- Writes a cell and the one across the diagonal, up to the first one that is missing. The answer
tells whether both were written. -/
def setBoth (i j : Nat) (value : α) (m : SquareMatrix α) : Bool × SquareMatrix α :=
  match m.set? i j value with
  | none => (false, m)
  | some once =>
    match once.set? j i value with
    | none => (false, once)
    | some twice => (true, twice)

/-- The cells of a row. -/
def row? (i : Nat) (m : SquareMatrix α) : Option (List α) :=
  if (i + 1) * m.size ≤ m.data.size then
    some (m.data.extract (i * m.size) ((i + 1) * m.size)).toList
  else none

/-- All rows. -/
def rows? (m : SquareMatrix α) : Option (List (List α)) :=
  if m.size * m.size ≤ m.data.size then (List.range m.size).mapM fun i => m.row? i else none

/-- The rows without their cells on the diagonal. -/
def offDiagonal (rows : List (List α)) : List α :=
  (rows.zipIdx.map fun (row, i) => row.eraseIdx i).flatten

variable [Add α] [Div α] [NatCast α]

/-- The mean of the cells off the diagonal, 0 if there are none. -/
def overallMean? (m : SquareMatrix α) : Option α :=
  if m.size < 2 then some ((0 : Nat) : α) else m.rows?.map fun rows => average (offDiagonal rows)

/-- The mean over all pairs of members, 0 if there are none. -/
def pairMean? (m : SquareMatrix α) (members : List Nat) : Option α :=
  ((pairs members).mapM fun (i, j) => m.get? i j).map average

end SquareMatrix

end LogAnomaly
