/-!
# Blocks of random words

* `Block.key`: a key of eight words from a seed;
* `Block.words`: the sixteen words of a block, from a key and the number of the block, in twelve
  rounds of the ChaCha permutation.
-/

namespace LogAnomaly.Random

/-- Eight words that fix a stream. -/
abbrev Key := Vector UInt32 8

/-- Sixteen words. -/
abbrev Block := Vector UInt32 16

namespace Block

/-- The word with its bits turned left. -/
def rotateLeft (x : UInt32) (n : UInt32) : UInt32 := (x <<< n) ||| (x >>> (32 - n))

/-- The state of the generator that stretches a seed to a key, one step on. -/
def stretch (s : UInt64) : UInt64 := s * 6364136223846793005 + 11634580027462260723

/-- The word of a key that a stretched seed gives. -/
def keyWord (s : UInt64) : UInt32 :=
  let x := (((s >>> 18) ^^^ s) >>> 27).toUInt32
  let turn := (s >>> 59).toUInt32
  (x >>> turn) ||| (x <<< ((32 - turn) % 32))

/-- The key of a seed. -/
def key (seed : UInt64) : Key :=
  Vector.ofFn fun i : Fin 8 => keyWord (Nat.repeat stretch (i.val + 1) seed)

/-- The quarter round on four places of a block. -/
def quarterRound (a b c d : Fin 16) (s : Block) : Block :=
  let s := s.set a (s[a] + s[b])
  let s := s.set d (rotateLeft (s[d] ^^^ s[a]) 16)
  let s := s.set c (s[c] + s[d])
  let s := s.set b (rotateLeft (s[b] ^^^ s[c]) 12)
  let s := s.set a (s[a] + s[b])
  let s := s.set d (rotateLeft (s[d] ^^^ s[a]) 8)
  let s := s.set c (s[c] + s[d])
  s.set b (rotateLeft (s[b] ^^^ s[c]) 7)

/-- A round on the columns and a round on the diagonals. -/
def doubleRound (s : Block) : Block :=
  let s := quarterRound 0 4 8 12 s
  let s := quarterRound 1 5 9 13 s
  let s := quarterRound 2 6 10 14 s
  let s := quarterRound 3 7 11 15 s
  let s := quarterRound 0 5 10 15 s
  let s := quarterRound 1 6 11 12 s
  let s := quarterRound 2 7 8 13 s
  quarterRound 3 4 9 14 s

/-- The block before the rounds: constants, key, number of the block, and two zeros. -/
def start (key : Key) (number : UInt64) : Block :=
  (#v[0x61707865, 0x3320646e, 0x79622d32, 0x6b206574] : Vector UInt32 4) ++ key ++
    (#v[number.toUInt32, (number >>> 32).toUInt32, 0, 0] : Vector UInt32 4)

/-- The words of a block. -/
def words (key : Key) (number : UInt64) : Block :=
  let initial := start key number
  (Nat.repeat doubleRound 6 initial).zipWith (· + ·) initial

end Block

end LogAnomaly.Random
