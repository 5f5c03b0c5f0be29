import LogAnomaly.Cluster.Placeholder
import LogAnomaly.Cluster.Tokens
import LogAnomaly.Config.Basic
import LogAnomaly.Text.Case

/-!
# Preparing texts

* `Preprocessor`: how texts are normalized and cut before they are compared, and which tokens
  decide by themselves;
* `Edges`: a token without the punctuation at its ends;
* `normalizeWords`: every word with a placeholder for its value, single spaces between them;
* `Preprocessor.standard`: normalization by placeholders, with a list of magic words.
-/

namespace LogAnomaly

open LogAnomaly.Text

/-- What a clusterer asks about texts before it compares them. -/
structure Preprocessor where
  tokenization : Tokenization
  /-- Replaces values that vary by placeholders. -/
  normalize : String → String
  /-- Whether a token decides similarity by itself. -/
  isMagic : String → Bool

/-- The punctuation that is split from the ends of a token. -/
def isEdge (c : Char) : Bool :=
  ['(', ')', '[', ']', '{', '}', '<', '>', ',', ';', '"', '\'', '.'].contains c

/-- A token as the punctuation in front, the core and the punctuation behind. -/
structure Edges where
  lead : List Char
  core : List Char
  trail : List Char
  deriving DecidableEq, Repr

/-- Splits the punctuation from the ends of a token. -/
def Edges.ofToken (token : List Char) : Edges :=
  let rest := token.dropWhile isEdge
  let core := dropEndWhile isEdge rest
  ⟨token.takeWhile isEdge, core, rest.drop core.length⟩

/-- A token with a placeholder for its core, if that is a value that varies. -/
def normalizeToken (token : List Char) : List Char :=
  let e := Edges.ofToken token
  match placeholder? e.core with
  | some mark => e.lead ++ mark ++ e.trail
  | none => token

/-- The normalized words of a text with single spaces between them. -/
def normalizeWords (s : List Char) : List Char :=
  [' '].intercalate ((splitBlank s).map normalizeToken)

/-- The normalized text: word by word, or trimmed if texts are compared as a whole. -/
def normalizeText (mode : Tokenization) (text : String) : String :=
  String.ofList <| match mode with
    | .words => normalizeWords text.toList
    | .whole => trimBlank text.toList

/-- The word that a token stands for in a list of magic words. -/
def magicForm (token : String) : String :=
  lowercase (String.ofList (Edges.ofToken token.toList).core)

/-- Placeholders and a list of magic words, whatever their case. -/
def Preprocessor.standard (magicWords : List String) (mode : Tokenization) : Preprocessor where
  tokenization := mode
  normalize := normalizeText mode
  isMagic token := (magicWords.map lowercase).contains (magicForm token)

end LogAnomaly
