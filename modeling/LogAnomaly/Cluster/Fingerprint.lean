import LogAnomaly.Cluster.EditDistance
import LogAnomaly.Cluster.Preparation
import LogAnomaly.Cluster.Tolerance

/-!
# Fingerprints

* `Fingerprint`: what is compared of a text: its tokens and its magic words in their order;
* `Fingerprint.isNear`: whether two texts may share a cluster: their magic words agree, and their
  distance is within the tolerance for their lengths.
-/

namespace LogAnomaly

/-- The tokens of a text and its magic words in small letters. -/
structure Fingerprint where
  tokens : List String
  magic : List String
  deriving DecidableEq, Repr

namespace Fingerprint

/-- The fingerprint of a normalized text. -/
def ofText (preprocessor : Preprocessor) (text : String) : Fingerprint :=
  let tokens := preprocessor.tokenization.tokens text
  ⟨tokens, (tokens.filter preprocessor.isMagic).map Text.lowercase⟩

/-- Magic words disagree only if both texts have some. -/
def magicAgrees (s other : Fingerprint) : Bool :=
  s.magic.isEmpty || other.magic.isEmpty || s.magic == other.magic

/-- Whether a known text is close to another one. -/
def isNear (tolerance : Tolerance) (known other : Fingerprint) : Bool :=
  let limit := tolerance known.tokens.length other.tokens.length
  boundedDistance known.tokens other.tokens limit ≤ limit && known.magicAgrees other

end Fingerprint

end LogAnomaly
