/-!
# ASCII documents

* `Json.ascii`: a document with escapes for all characters beyond ASCII, which stand only inside
  strings; those beyond the basic plane are written as two surrogates.
-/

namespace LogAnomaly.Json

/-- A UTF-16 unit as an escape. -/
def escapeUnit (n : Nat) : List Char :=
  let digits := Nat.toDigits 16 n
  '\\' :: 'u' :: (List.replicate (4 - digits.length) '0' ++ digits)

/-- A character, or its escape if it is not ASCII. -/
def asciiChar (c : Char) : List Char :=
  if c.toNat < 0x80 then [c]
  else if c.toNat < 0x10000 then escapeUnit c.toNat
  else
    let n := c.toNat - 0x10000
    escapeUnit (0xD800 + n / 0x400) ++ escapeUnit (0xDC00 + n % 0x400)

/-- The text of a document in ASCII. -/
def ascii (text : String) : String := String.ofList (text.toList.flatMap asciiChar)

end LogAnomaly.Json
