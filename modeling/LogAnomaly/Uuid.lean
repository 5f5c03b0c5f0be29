/-!
# UUIDs

* `Uuid`: thirty-two digits of base sixteen;
* `Uuid.parse?`: their text, with hyphens after the digits 8, 12, 16 and 20 and perhaps braces
  or the prefix of a URN around it, or without any hyphens;
* `Uuid.write`: the hyphenated text in small letters.
-/

namespace LogAnomaly

/-- A universally unique identifier, by its digits of base sixteen. -/
structure Uuid where
  digits : Vector (Fin 16) 32
  deriving DecidableEq, Repr

namespace Uuid

/-- A digit of base sixteen. -/
def digit? (c : Char) : Option (Fin 16) :=
  (List.finRange 16).find? fun d => Nat.digitChar d.val == c.toLower

/-- Thirty-two digits. -/
def ofDigits? (s : List Char) : Option Uuid := do
  let digits ← s.mapM digit?
  if h : digits.toArray.size = 32 then some ⟨⟨digits.toArray, h⟩⟩ else none

/-- The text with hyphens. -/
def ofHyphenated? (s : List Char) : Option Uuid :=
  match s.drop 8, s.drop 13, s.drop 18, s.drop 23 with
  | '-' :: _, '-' :: _, '-' :: _, '-' :: last =>
    ofDigits? (s.take 8 ++ (s.drop 9).take 4 ++ (s.drop 14).take 4 ++ (s.drop 19).take 4 ++ last)
  | _, _, _, _ => none

/-- What comes before a UUID in its form as a URN, in small letters. -/
def urnPrefix : List Char := "urn:uuid:".toList

/-- The text of a UUID in any of its forms; the case of letters does not matter. -/
def parse? (text : String) : Option Uuid :=
  let s := text.toList
  match s.length with
  | 32 => ofDigits? s
  | 36 => ofHyphenated? s
  | 38 => if s.head? == some '{' && s.getLast? == some '}' then
      ofHyphenated? ((s.drop 1).take 36) else none
  | 45 => if (s.take 9).map Char.toLower == urnPrefix then ofHyphenated? (s.drop 9) else none
  | _ => none

/-- The hyphenated text. -/
def text (u : Uuid) : List Char :=
  let s := u.digits.toList.map fun d => Nat.digitChar d.val
  s.take 8 ++ '-' :: (s.drop 8).take 4 ++ '-' :: (s.drop 12).take 4 ++ '-' :: (s.drop 16).take 4
    ++ '-' :: s.drop 20

/-- The text of a UUID. -/
def write (u : Uuid) : String := String.ofList u.text

/-- A UUID of version 4 from random digits: two of them are fixed by the version and variant. -/
def ofRandom (digits : Vector (Fin 16) 32) : Uuid :=
  ⟨(digits.set 12 ⟨4, by omega⟩).set 16 ⟨8 + digits[16].val % 4, by omega⟩⟩

end Uuid

end LogAnomaly
