import LogAnomaly.Proofs.Cluster.Edges
import LogAnomaly.Proofs.Cluster.Fingerprint

/-!
# Magic words

* `Preprocessor.magicTokens`: the tokens of a text that are taken for magic words;
* `Preprocessor.magicSequence`, `Preprocessor.magicEdges`: the words that they stand for and the
  punctuation that is left at their ends;
* `Fingerprint.magicAgrees_iff`: the magic words of two texts agree if one of the texts has none,
  or if they stand for the same words and have the same punctuation at their ends.

A token is taken for a magic word without regard to its edges, but it is compared with them. So
`stop` and `stop,` stand for the same word and disagree (`Fingerprint.stop_disagrees_with_itself`).
-/

namespace LogAnomaly

open LogAnomaly.Text

/-! ## Lists -/

/-- If two functions together tell apart what a third one does, they do so for lists. -/
theorem map_eq_map_iff_of_iff {α β γ δ : Type} {f : α → β} {g : α → γ} {k : α → δ}
    (h : ∀ a b, f a = f b ↔ g a = g b ∧ k a = k b) (l l' : List α) :
    l.map f = l'.map f ↔ l.map g = l'.map g ∧ l.map k = l'.map k := by
  induction l generalizing l' with
  | nil => cases l' <;> simp
  | cons a l ih =>
    cases l' with
    | nil => simp
    | cons b l' =>
      simp only [List.map_cons, List.cons.injEq, h a b, ih l']
      exact and_and_and_comm

/-! ## Magic words of a text -/

namespace Preprocessor

/-- The tokens of a text that are taken for magic words. -/
def magicTokens (p : Preprocessor) (text : String) : List String :=
  (p.tokenization.tokens text).filter p.isMagic

/-- The words that the magic tokens of a text stand for. -/
def magicSequence (p : Preprocessor) (text : String) : List String :=
  (p.magicTokens text).map magicForm

/-- The punctuation at the ends of the magic tokens of a text. -/
def magicEdges (p : Preprocessor) (text : String) : List (List Char × List Char) :=
  (p.magicTokens text).map tokenEdges

theorem magic_ofText (p : Preprocessor) (text : String) :
    (Fingerprint.ofText p text).magic = (p.magicTokens text).map lowercase := rfl

theorem isEmpty_magic (p : Preprocessor) (text : String) :
    (Fingerprint.ofText p text).magic.isEmpty = true ↔ p.magicSequence text = [] := by
  rw [magic_ofText, List.isEmpty_iff, List.map_eq_nil_iff, magicSequence, List.map_eq_nil_iff]

end Preprocessor

namespace Fingerprint

/-- Two texts are kept apart if both have magic words and these differ in the words that they stand
for or in the punctuation at their ends; the case of letters does not count. -/
theorem magicAgrees_iff (magicWords : List String) (mode : Tokenization) (s t : String) :
    let p := Preprocessor.standard magicWords mode
    (ofText p s).magicAgrees (ofText p t) = true ↔
      p.magicSequence s = [] ∨ p.magicSequence t = [] ∨
        (p.magicSequence s = p.magicSequence t ∧ p.magicEdges s = p.magicEdges t) := by
  intro p
  rw [magicAgrees, Bool.or_eq_true, Bool.or_eq_true, beq_iff_eq, p.isEmpty_magic, p.isEmpty_magic,
    p.magic_ofText, p.magic_ofText, map_eq_map_iff_of_iff lowercase_eq_iff, or_assoc]
  rfl

/-- A comma keeps two texts with the same magic word apart that are within the tolerance. -/
theorem stop_disagrees_with_itself :
    let p := Preprocessor.standard ["stop"] .words
    let s := "service will stop now"
    let t := "service will stop, now"
    p.magicSequence s = ["stop"] ∧ p.magicSequence t = ["stop"] ∧
      boundedDistance (ofText p s).tokens (ofText p t).tokens 1 ≤ 1 ∧
      (ofText p s).magicAgrees (ofText p t) = false := by
  decide +kernel

end Fingerprint

end LogAnomaly
