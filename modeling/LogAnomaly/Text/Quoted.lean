import LogAnomaly.Text.Printable

/-!
# Quoted text

* `quoted`: a text between double quotes, in which quotes, backslashes and all characters that
  do not show by themselves are written as escapes.
-/

namespace LogAnomaly.Text

/-- The escape of a character by its code point, in lower-case base sixteen. -/
def codeEscape (c : Char) : List Char :=
  ['\\', 'u', '{'] ++ Nat.toDigits 16 c.toNat ++ ['}']

/-- How one character is written between the quotes. -/
def quotedChar (c : Char) : List Char :=
  match c with
  | '"' => ['\\', '"']
  | '\\' => ['\\', '\\']
  | '\n' => ['\\', 'n']
  | '\r' => ['\\', 'r']
  | '\t' => ['\\', 't']
  | '\x00' => ['\\', '0']
  | c => if isPrintable c then [c] else codeEscape c

/-- A text between double quotes. -/
def quoted (text : String) : String :=
  String.ofList ('"' :: (text.toList.flatMap quotedChar ++ ['"']))

end LogAnomaly.Text
