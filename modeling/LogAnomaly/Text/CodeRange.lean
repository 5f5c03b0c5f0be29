/-!
# Runs of code points

* `covers`: membership of a character in a table of runs. The tables of the character classes
  are lists of runs, each given by its first and its last code point, in ascending order.
-/

namespace LogAnomaly.Text

/-- Whether one of the runs of `table` holds the code point of `c`. -/
def covers (table : List (Nat × Nat)) (c : Char) : Bool :=
  table.any fun run => run.1 ≤ c.toNat && c.toNat ≤ run.2

theorem covers_iff {table : List (Nat × Nat)} {c : Char} :
    covers table c = true ↔ ∃ run ∈ table, run.1 ≤ c.toNat ∧ c.toNat ≤ run.2 := by
  simp [covers]

end LogAnomaly.Text
