import LogAnomaly.Json.Basic
import LogAnomaly.Decimal.Written

/-!
# Writing JSON

* `Json.compact`: without any white space;
* `Json.pretty`: one item or field a line, indented by two spaces; empty arrays and objects on
  one line;
* `Json.ofFloat`: a float in its shortest form, `null` if it is not finite.

The functions below put what they write in front of a text that follows it.
-/

namespace LogAnomaly.Json

open LogAnomaly.Decimal

/-- How one character is written inside a string. -/
def escapeChar (c : Char) : List Char :=
  match c with
  | '"' => ['\\', '"']
  | '\\' => ['\\', '\\']
  | '\x08' => ['\\', 'b']
  | '\x0c' => ['\\', 'f']
  | '\n' => ['\\', 'n']
  | '\r' => ['\\', 'r']
  | '\t' => ['\\', 't']
  | c =>
    if c.toNat < 0x20 then
      ['\\', 'u', '0', '0', Nat.digitChar (c.toNat / 16), Nat.digitChar (c.toNat % 16)]
    else [c]

/-- A string between its quotes. -/
def writeString (text : String) (rest : List Char) : List Char :=
  '"' :: (text.toList.flatMap escapeChar ++ '"' :: rest)

/-- The exponent of a number, always with its sign. -/
def writeExponent (e : Int) (rest : List Char) : List Char :=
  (if e < 0 then '-' else '+') :: (Nat.toDigits 10 e.natAbs ++ rest)

/-- A number. -/
def Numeral.write (n : Numeral) (rest : List Char) : List Char :=
  let exponent := match n.exponent with
    | none => rest
    | some e => 'e' :: writeExponent e rest
  let fraction := if n.fraction.isEmpty then exponent else '.' :: (n.fraction ++ exponent)
  signed n.negative (n.whole ++ fraction)

/-- The name of a field between its quotes; a broken one shows as an empty name. -/
def Key.write (key : Key) (rest : List Char) : List Char :=
  writeString (key.name?.getD "") rest

/-- A line break and the indentation of the given depth. -/
def newLine (depth : Nat) (rest : List Char) : List Char :=
  '\n' :: (List.replicate (2 * depth) ' ' ++ rest)

mutual

/-- A value without white space. -/
def writeCompact : Json → List Char → List Char
  | .null, rest => 'n' :: 'u' :: 'l' :: 'l' :: rest
  | .bool true, rest => 't' :: 'r' :: 'u' :: 'e' :: rest
  | .bool false, rest => 'f' :: 'a' :: 'l' :: 's' :: 'e' :: rest
  | .number n, rest => n.write rest
  | .string text, rest => writeString text rest
  | .brokenString, rest => writeString "" rest
  | .array items, rest => '[' :: writeCompactItems items true (']' :: rest)
  | .object fields, rest => '{' :: writeCompactFields fields true ('}' :: rest)

/-- Items with commas between them. -/
def writeCompactItems : List Json → Bool → List Char → List Char
  | [], _, rest => rest
  | item :: items, first, rest =>
    let text := writeCompact item (writeCompactItems items false rest)
    if first then text else ',' :: text

/-- Fields with commas between them. -/
def writeCompactFields : List (Key × Json) → Bool → List Char → List Char
  | [], _, rest => rest
  | (key, value) :: fields, first, rest =>
    let text := key.write (':' :: writeCompact value (writeCompactFields fields false rest))
    if first then text else ',' :: text

end

mutual

/-- A value at the given depth, one item or field a line. -/
def writePretty : Json → Nat → List Char → List Char
  | .null, _, rest => 'n' :: 'u' :: 'l' :: 'l' :: rest
  | .bool true, _, rest => 't' :: 'r' :: 'u' :: 'e' :: rest
  | .bool false, _, rest => 'f' :: 'a' :: 'l' :: 's' :: 'e' :: rest
  | .number n, _, rest => n.write rest
  | .string text, _, rest => writeString text rest
  | .brokenString, _, rest => writeString "" rest
  | .array [], _, rest => '[' :: ']' :: rest
  | .array (item :: items), depth, rest =>
    '[' :: newLine (depth + 1) (writePretty item (depth + 1)
      (writePrettyItems items (depth + 1) (newLine depth (']' :: rest))))
  | .object [], _, rest => '{' :: '}' :: rest
  | .object ((key, value) :: fields), depth, rest =>
    '{' :: newLine (depth + 1) (key.write (':' :: ' ' :: writePretty value (depth + 1)
      (writePrettyFields fields (depth + 1) (newLine depth ('}' :: rest)))))

/-- The items after the first one. -/
def writePrettyItems : List Json → Nat → List Char → List Char
  | [], _, rest => rest
  | item :: items, depth, rest =>
    ',' :: newLine depth (writePretty item depth (writePrettyItems items depth rest))

/-- The fields after the first one. -/
def writePrettyFields : List (Key × Json) → Nat → List Char → List Char
  | [], _, rest => rest
  | (key, value) :: fields, depth, rest =>
    ',' :: newLine depth (key.write (':' :: ' ' :: writePretty value depth
      (writePrettyFields fields depth rest)))

end

/-- A document without white space. -/
def compact (value : Json) : String := String.ofList (writeCompact value [])

/-- A document with one item or field a line. -/
def pretty (value : Json) : String := String.ofList (writePretty value 0 [])

/-- The layout of a float: places from `10 ^ -5` to `10 ^ 16` are written without an exponent,
and a point with at least one digit after it shows that the number is a float. -/
def numeralOfDigits (negative : Bool) (d : Digits) : Numeral :=
  let count := d.digits.length
  let place := d.point.toNat
  if 0 < d.point && d.point ≤ 16 then
    if count ≤ place then ⟨negative, d.digits ++ zeros (place - count), ['0'], none⟩
    else ⟨negative, d.digits.take place, d.digits.drop place, none⟩
  else if -5 < d.point && d.point ≤ 0 then
    ⟨negative, ['0'], zeros (-d.point).toNat ++ d.digits, none⟩
  else ⟨negative, d.digits.take 1, d.digits.drop 1, some (d.point - 1)⟩

/-- A float in the fewest digits that read back as it; only finite floats can be written. -/
def ofFloat (x : Float) : Json :=
  match Binary64.ofFloat x with
  | .nan => .null
  | .infinite _ => .null
  | .finite negative 0 _ => .number ⟨negative, ['0'], ['0'], none⟩
  | .finite negative mantissa exponent =>
    .number (numeralOfDigits negative (shortest mantissa exponent .toEven))

end LogAnomaly.Json
