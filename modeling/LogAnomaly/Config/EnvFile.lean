import LogAnomaly.Config.Environment

/-!
# Files of variables

* `Environment.withFile`: the environment together with the variables of a file. A line holds
  `KEY=VALUE`, a comment after `#`, or nothing. Variables that are set to a text already stay as
  they are, and reading stops at the first line that is none of these.
-/

namespace LogAnomaly

open LogAnomaly.Text

namespace EnvFile

/-- A character that the name of a variable may begin with. -/
def isNameStart (c : Char) : Bool := c.isAlpha || c == '_'

/-- A character of the name of a variable. -/
def isNameChar (c : Char) : Bool := c.isAlphanum || c == '_' || c == '.'

/-- A character that ends a value. -/
def isGap (c : Char) : Bool := c == ' ' || c == '\t'

/-- The value up to the end of its line; a gap ends it, and only a comment may follow. -/
def value? (s : List Char) : Option String :=
  let text := s.takeWhile fun c => !isGap c
  let after := (s.drop text.length).dropWhile isGap
  match after with
  | [] => some (String.ofList text)
  | '#' :: _ => some (String.ofList text)
  | _ => none

/-- What a line says. -/
inductive Line where
  | blank
  | assign (name value : String)
  | malformed
  deriving DecidableEq, Repr

/-- Reads a line. -/
def Line.ofChars (line : List Char) : Line :=
  match trimBlank line with
  | [] => .blank
  | '#' :: _ => .blank
  | c :: rest =>
    if isNameStart c then
      let name := c :: rest.takeWhile isNameChar
      match (rest.dropWhile isNameChar).dropWhile isBlank with
      | '=' :: tail =>
        match tail.dropWhile isBlank with
        | '#' :: _ => .assign (String.ofList name) ""
        | text =>
          match value? text with
          | some value => .assign (String.ofList name) value
          | none => .malformed
      | _ => .malformed
    else .malformed

/-- Adds the variables of the lines up to the first malformed one. -/
def addLines (env : Environment) : List (List Char) → Environment
  | [] => env
  | line :: rest =>
    match Line.ofChars line with
    | .blank => addLines env rest
    | .assign name value =>
      addLines (if (env.text? name).isSome then env else (name, .text value) :: env) rest
    | .malformed => env

end EnvFile

/-- The environment together with the variables of a file. -/
def Environment.withFile (env : Environment) (text : String) : Environment :=
  EnvFile.addLines env (pieces '\n' text.toList)

end LogAnomaly
