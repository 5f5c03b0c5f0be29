import LogAnomaly.Cluster.Fingerprint
import LogAnomaly.Proofs.Cluster.EditDistance

/-!
# Nearness of fingerprints

A fingerprint is near itself (`isNear_self`), and nearness goes both ways if the tolerance does
not tell its two lengths apart (`isNear_comm`), as that of `LinearTolerance` does not
(`toTolerance_comm`). Nearness is not transitive.
-/

namespace LogAnomaly

/-- A tolerance that does not depend on which of the two texts is the known one. -/
def Tolerance.Symmetric (tolerance : Tolerance) : Prop := ∀ m n, tolerance m n = tolerance n m

theorem LinearTolerance.toTolerance_comm {α : Type} [Sub α] [Div α] [NatCast α] [LT α]
    [DecidableLT α] [RoundNat α] (t : LinearTolerance α) :
    Tolerance.Symmetric t.toTolerance := by
  intro m n
  simp only [LinearTolerance.toTolerance, Nat.min_comm]

namespace Fingerprint

theorem magicAgrees_self (s : Fingerprint) : s.magicAgrees s = true := by
  simp [magicAgrees]

theorem magicAgrees_comm (s t : Fingerprint) : s.magicAgrees t = t.magicAgrees s := by
  simp only [magicAgrees]
  rw [Bool.or_comm s.magic.isEmpty, BEq.comm]

theorem isNear_self (tolerance : Tolerance) (s : Fingerprint) : s.isNear tolerance s = true := by
  simp [isNear, boundedDistance_self, magicAgrees_self]

theorem isNear_comm {tolerance : Tolerance} (h : tolerance.Symmetric) (s t : Fingerprint) :
    s.isNear tolerance t = t.isNear tolerance s := by
  simp only [isNear]
  rw [h s.tokens.length, boundedDistance_comm, magicAgrees_comm]

end Fingerprint

end LogAnomaly
