/-!
# Words

Ids, counts and lengths are words of 64 bits, ticks are words of 32 bits. They are kept as natural
numbers; only what is read from outside is held to the size of a word.
-/

namespace LogAnomaly

/-- The number of words of 64 bits. -/
def wordCount : Nat := 18446744073709551616

/-- The greatest word of 64 bits. -/
def maxWord : Nat := 18446744073709551615

/-- The greatest word of 32 bits. -/
def maxHalfWord : Nat := 4294967295

end LogAnomaly
