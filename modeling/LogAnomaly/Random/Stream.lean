import LogAnomaly.Random.Block

/-!
# Streams of random words

* `WordStream`: the words of all blocks of a key, in their order;
* `WordStream.next32`, `WordStream.next64`: the next word, and the next two as one;
* `WordStream.below`: a uniform number below a bound;
* `WordStream.shuffle`: a random order of a list.
-/

namespace LogAnomaly.Random

/-- A place in the words of a key: the rest of a block and the number of the block after it. -/
structure WordStream where
  key : Key
  nextBlock : UInt64 := 0
  rest : List UInt32 := []

namespace WordStream

/-- The stream of a seed. -/
def ofSeed (seed : UInt64) : WordStream := { key := Block.key seed }

/-- The next word of 32 bits. -/
def next32 (s : WordStream) : UInt32 × WordStream :=
  match s.rest with
  | word :: rest => (word, { s with rest })
  | [] =>
    let words := Block.words s.key s.nextBlock
    (words[0], { s with nextBlock := s.nextBlock + 1, rest := words.toList.drop 1 })

/-- The next word of 64 bits: two of 32 bits, the low one first. -/
def next64 (s : WordStream) : UInt64 × WordStream :=
  let (low, s) := s.next32
  let (high, s) := s.next32
  (low.toUInt64 ||| (high.toUInt64 <<< 32), s)

/-- Words to draw from, by their number of bits. -/
inductive WordSize where
  | bits32
  | bits64
  deriving DecidableEq, Repr

/-- The number of bits. -/
def WordSize.bits : WordSize → Nat
  | .bits32 => 32
  | .bits64 => 64

/-- The number of words. -/
def WordSize.count (size : WordSize) : Nat := Nat.pow 2 size.bits

/-- The next word of a size. -/
def next (size : WordSize) (s : WordStream) : Nat × WordStream :=
  match size with
  | .bits32 => let (word, s) := s.next32; (word.toNat, s)
  | .bits64 => let (word, s) := s.next64; (word.toNat, s)

/-- The greatest low half of a product that keeps the high half uniform below `n`: the greatest
multiple of `n` by a power of two within a word, less 1. -/
def acceptedUpTo (size : WordSize) (n : Nat) : Nat := n * Nat.pow 2 (size.bits - 1 - n.log2) - 1

/-- The number of draws after which a word is taken as it is. Each draw before is refused with a
probability of less than one half. -/
def maxDraws : Nat := 128

/-- A number below `n`: words are multiplied by `n` until the low half of the product is accepted;
the high half is the number. -/
def drawBelow (size : WordSize) (n : Nat) : Nat → WordStream → Nat × WordStream
  | 0, s =>
    let (word, s) := s.next size
    (word * n / size.count, s)
  | draws + 1, s =>
    let (word, s) := s.next size
    if word * n % size.count ≤ acceptedUpTo size n then (word * n / size.count, s)
    else drawBelow size n draws s

theorem next_lt (size : WordSize) (s : WordStream) : (s.next size).1 < size.count := by
  cases size with
  | bits32 => exact s.next32.1.toNat_lt
  | bits64 => exact s.next64.1.toNat_lt

theorem highHalf_lt {size : WordSize} {n word : Nat} (hn : 0 < n) (h : word < size.count) :
    word * n / size.count < n := by
  rw [Nat.div_lt_iff_lt_mul (Nat.zero_lt_of_lt h), Nat.mul_comm n]
  exact Nat.mul_lt_mul_of_pos_right h hn

theorem drawBelow_lt (size : WordSize) {n : Nat} (hn : 0 < n) (draws : Nat) (s : WordStream) :
    (drawBelow size n draws s).1 < n := by
  induction draws generalizing s with
  | zero => exact highHalf_lt hn (next_lt size s)
  | succ draws ih =>
    simp only [drawBelow]
    split
    · exact highHalf_lt hn (next_lt size s)
    · exact ih _

/-- A uniform number below `n`. -/
def below (size : WordSize) {n : Nat} (hn : 0 < n) (s : WordStream) : Fin n × WordStream :=
  let drawn := drawBelow size n maxDraws s
  (⟨drawn.1, drawBelow_lt size hn maxDraws s⟩, drawn.2)

/-- Puts the elements up to place `last` in a random order: each place from the last one down
trades its element with one at a random place not above it. -/
def shuffleFrom {α : Type} {n : Nat} (last : Nat) (h : last < n) (items : Vector α n)
    (s : WordStream) : Vector α n × WordStream :=
  match last with
  | 0 => (items, s)
  | last + 1 =>
    let (place, s) := s.below .bits32 (Nat.succ_pos (last + 1))
    shuffleFrom last (by omega) (items.swap (last + 1) place.val h (by omega)) s

/-- Puts the elements in a random order. -/
def shuffle {α : Type} {n : Nat} (items : Vector α n) (s : WordStream) :
    Vector α n × WordStream :=
  if h : 0 < n then shuffleFrom (n - 1) (by omega) items s else (items, s)

end WordStream

end LogAnomaly.Random
