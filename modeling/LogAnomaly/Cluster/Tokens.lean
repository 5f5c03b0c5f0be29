import LogAnomaly.Text.Blank

/-!
# Tokens

* `Tokenization`: a text is compared word by word or as a whole;
* `Tokenization.tokens`: its tokens.
-/

namespace LogAnomaly

/-- How a text is cut into the tokens that are compared. -/
inductive Tokenization where
  /-- Every word is a token. -/
  | words
  /-- The whole text is one token. -/
  | whole
  deriving DecidableEq, Repr

/-- The tokens of a text; a text of blanks has none. -/
def Tokenization.tokens (mode : Tokenization) (text : String) : List String :=
  match mode with
  | .words => Text.words text
  | .whole =>
    let trimmed := Text.trim text
    if trimmed.isEmpty then [] else [trimmed]

end LogAnomaly
