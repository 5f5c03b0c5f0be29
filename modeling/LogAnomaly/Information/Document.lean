import LogAnomaly.Information.SquareMatrix
import LogAnomaly.Json.Decode
import LogAnomaly.Json.Printer

/-!
# Matrices as documents

* `SquareMatrix.toJson`, `SquareMatrix.ofJson?`: a record with the fields `n` and `data`. Whether
  the number of cells fits is not checked.
-/

namespace LogAnomaly.SquareMatrix

open LogAnomaly.Json

/-- A matrix as a document. -/
def toJson (m : SquareMatrix Float) : Json :=
  .record [("n", .ofNat m.size), ("data", .ofList ofFloat m.data.toList)]

/-- A matrix from a document. -/
def ofJson? (j : Json) : Option (SquareMatrix Float) := do
  match ← j.record? [("n", .refused), ("data", .refused)] with
  | [some size, some data] => return ⟨← size.nat?, (← data.list? float?).toArray⟩
  | _ => none

end LogAnomaly.SquareMatrix
