import LogAnomaly.Json.Basic
import LogAnomaly.Text.Digit

/-!
# Reading JSON

* `Json.parse?`: a text that holds one document and nothing else but white space.

The functions below take what is left of a text and give what they read together with the rest.
Those that call each other carry a bound on the steps, which the length of the text covers.
-/

namespace LogAnomaly.Json

open LogAnomaly.Text

/-- The four characters that may stand between the tokens. -/
def isSpace (c : Char) : Bool := c == ' ' || c == '\n' || c == '\t' || c == '\r'

/-- Drops the white space in front. -/
def skipSpace (s : List Char) : List Char := s.dropWhile isSpace

/-- The value of one digit of base sixteen. -/
def hexValue? (c : Char) : Option Nat :=
  if isAsciiDigit c then some (c.toNat - 0x30)
  else if 'a' ≤ c ∧ c ≤ 'f' then some (c.toNat - 0x57)
  else if 'A' ≤ c ∧ c ≤ 'F' then some (c.toNat - 0x37)
  else none

/-- Four digits of base sixteen. -/
def readFourHex : List Char → Option (Nat × List Char)
  | a :: b :: c :: d :: rest => do
    let a ← hexValue? a
    let b ← hexValue? b
    let c ← hexValue? c
    let d ← hexValue? d
    some (0x1000 * a + 0x100 * b + 0x10 * c + d, rest)
  | _ => none

/-- What one step through a string finds. -/
inductive StringPiece where
  /-- A character that stands for itself. -/
  | self (c : Char)
  /-- A character given by an escape. -/
  | escape (c : Char)
  /-- An escape that stands for no character. -/
  | broken
  deriving DecidableEq, Repr

/-- An escape by code, the backslash and the `u` already read. Two escapes in a row that are the
halves of a pair stand for one character. -/
def readCode (s : List Char) : Option (StringPiece × List Char) :=
  match readFourHex s with
  | none => none
  | some (high, rest) =>
    if high < 0xD800 || 0xDFFF < high then some (.escape (Char.ofNat high), rest)
    else if 0xDC00 ≤ high then some (.broken, rest)
    else
      match rest with
      | '\\' :: 'u' :: tail =>
        match readFourHex tail with
        | some (low, after) =>
          if 0xDC00 ≤ low && low ≤ 0xDFFF then
            some (.escape (Char.ofNat (0x10000 + 0x400 * (high - 0xD800) + (low - 0xDC00))), after)
          else some (.broken, rest)
        | none => some (.broken, rest)
      | _ => some (.broken, rest)

/-- An escape, the backslash already read. -/
def readEscape : List Char → Option (StringPiece × List Char)
  | '"' :: rest => some (.escape '"', rest)
  | '\\' :: rest => some (.escape '\\', rest)
  | '/' :: rest => some (.escape '/', rest)
  | 'b' :: rest => some (.escape '\x08', rest)
  | 'f' :: rest => some (.escape '\x0c', rest)
  | 'n' :: rest => some (.escape '\n', rest)
  | 'r' :: rest => some (.escape '\r', rest)
  | 't' :: rest => some (.escape '\t', rest)
  | 'u' :: rest => readCode rest
  | _ => none

/-- The content of a string: its characters, whether escapes were used, and whether each of them
stands for a character. -/
structure StringContent where
  chars : List Char
  escaped : Bool
  broken : Bool
  deriving DecidableEq, Repr

/-- Puts a piece in front of a content. -/
def StringContent.cons (piece : StringPiece) (content : StringContent) : StringContent :=
  match piece with
  | .self c => { content with chars := c :: content.chars }
  | .escape c => { content with chars := c :: content.chars, escaped := true }
  | .broken => { content with escaped := true, broken := true }

/-- A string up to its closing quote, the opening one already read. `pieces` holds what was read
before, the last piece first. -/
def readStringFrom : Nat → List StringPiece → List Char → Option (StringContent × List Char)
  | 0, _, _ => none
  | _ + 1, _, [] => none
  | _ + 1, pieces, '"' :: rest =>
    some (pieces.foldl (fun content piece => content.cons piece) ⟨[], false, false⟩, rest)
  | fuel + 1, pieces, '\\' :: rest =>
    match readEscape rest with
    | some (piece, after) => readStringFrom fuel (piece :: pieces) after
    | none => none
  | fuel + 1, pieces, c :: rest =>
    if c.toNat < 0x20 then none else readStringFrom fuel (.self c :: pieces) rest

/-- A string, the opening quote already read. -/
def readString (s : List Char) : Option (StringContent × List Char) :=
  readStringFrom (s.length + 1) [] s

/-- The key that a string makes. -/
def StringContent.key (content : StringContent) : Key :=
  if content.broken then .broken
  else if content.escaped then .escaped (String.ofList content.chars)
  else .plain (String.ofList content.chars)

/-- The value that a string makes. -/
def StringContent.value (content : StringContent) : Json :=
  if content.broken then .brokenString else .string (String.ofList content.chars)

/-- The digits in front, at least one. -/
def readDigits (s : List Char) : Option (List Char × List Char) :=
  let digits := s.takeWhile isAsciiDigit
  if digits.isEmpty then none else some (digits, s.dropWhile isAsciiDigit)

/-- The digits before the point: a zero in front stands alone. -/
def readWhole (s : List Char) : Option (List Char × List Char) :=
  match readDigits s with
  | some ('0' :: _ :: _, _) => none
  | other => other

/-- The digits after the point, if there is one. -/
def readFraction : List Char → Option (List Char × List Char)
  | '.' :: rest => readDigits rest
  | rest => some ([], rest)

/-- The exponent, if there is one. -/
def readExponent : List Char → Option (Option Int × List Char)
  | e :: rest =>
    if e == 'e' || e == 'E' then
      let (negative, tail) := match rest with
        | '-' :: tail => (true, tail)
        | '+' :: tail => (false, tail)
        | tail => (false, tail)
      match readDigits tail with
      | some (digits, after) =>
        let value : Int := digitsValue digits
        some (some (if negative then -value else value), after)
      | none => none
    else some (none, e :: rest)
  | [] => some (none, [])

/-- A number without its sign. -/
def readUnsigned (negative : Bool) (s : List Char) : Option (Numeral × List Char) := do
  let (whole, s) ← readWhole s
  let (fraction, s) ← readFraction s
  let (exponent, s) ← readExponent s
  some (⟨negative, whole, fraction, exponent⟩, s)

/-- A number. -/
def readNumber : List Char → Option (Numeral × List Char)
  | '-' :: rest => readUnsigned true rest
  | s => readUnsigned false s

mutual

/-- A value, with no white space in front. -/
def readValue : Nat → List Char → Option (Json × List Char)
  | 0, _ => none
  | fuel + 1, s =>
    match s with
    | 'n' :: 'u' :: 'l' :: 'l' :: rest => some (.null, rest)
    | 't' :: 'r' :: 'u' :: 'e' :: rest => some (.bool true, rest)
    | 'f' :: 'a' :: 'l' :: 's' :: 'e' :: rest => some (.bool false, rest)
    | '"' :: rest => (readString rest).map fun (content, after) => (content.value, after)
    | '[' :: rest =>
      match skipSpace rest with
      | ']' :: after => some (.array [], after)
      | after => readItems fuel [] after
    | '{' :: rest =>
      match skipSpace rest with
      | '}' :: after => some (.object [], after)
      | after => readFields fuel [] after
    | s => (readNumber s).map fun (n, after) => (.number n, after)

/-- The items of an array up to its end, with no white space in front; `items` holds those read
before, the last one first. -/
def readItems : Nat → List Json → List Char → Option (Json × List Char)
  | 0, _, _ => none
  | fuel + 1, items, s =>
    match readValue fuel s with
    | none => none
    | some (item, rest) =>
      match skipSpace rest with
      | ',' :: after => readItems fuel (item :: items) (skipSpace after)
      | ']' :: after => some (.array (item :: items).reverse, after)
      | _ => none

/-- The fields of an object up to its end, with no white space in front; `fields` holds those
read before, the last one first. -/
def readFields : Nat → List (Key × Json) → List Char → Option (Json × List Char)
  | 0, _, _ => none
  | fuel + 1, fields, s =>
    match s with
    | '"' :: rest =>
      match readString rest with
      | none => none
      | some (name, rest) =>
        match skipSpace rest with
        | ':' :: rest =>
          match readValue fuel (skipSpace rest) with
          | none => none
          | some (value, rest) =>
            match skipSpace rest with
            | ',' :: after => readFields fuel ((name.key, value) :: fields) (skipSpace after)
            | '}' :: after => some (.object ((name.key, value) :: fields).reverse, after)
            | _ => none
        | _ => none
    | _ => none

end

/-- One document, with white space around it and nothing else. -/
def parseChars? (s : List Char) : Option Json :=
  match readValue (s.length + 1) (skipSpace s) with
  | some (value, rest) => if (skipSpace rest).isEmpty then some value else none
  | none => none

/-- One document, with white space around it and nothing else. -/
def parse? (text : String) : Option Json := parseChars? text.toList

end LogAnomaly.Json
