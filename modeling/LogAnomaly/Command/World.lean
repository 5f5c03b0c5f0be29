import LogAnomaly.Store.File

/-!
# The world of a command

* `World`: what a command does to files and to its output, in any monad.
-/

namespace LogAnomaly

/-- The lines of a file, and whether reading fails after them. -/
structure InputLines where
  lines : List (List Char)
  isBroken : Bool := false

/-- What a command does to files and to its output. -/
structure World (m : Type → Type) where
  /-- The text of a file, if it can be read. -/
  readText : String → m (Option String)
  /-- The lines of a file, if it can be opened. -/
  readLines : String → m (Option InputLines)
  /-- Writes the text of a file, if that is possible. -/
  writeText : String → String → m Bool
  /-- Makes a directory and those on the way to it, if that is possible. -/
  makeDirectory : String → m Bool
  /-- Changes what a directory holds for a store, as one step, waiting for its lock at most the
  given number of milliseconds. -/
  onStore : {α : Type} → String → Nat → (StoreDirectory → α × StoreDirectory) → m α
  /-- Prints a text. -/
  print : String → m Unit

end LogAnomaly
