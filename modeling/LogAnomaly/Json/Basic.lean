/-!
# JSON values

* `Json`: a document as it is written. Numbers keep their digits, objects the order of their
  fields and repeated names, so that a reader of a record can tell `1` from `1.0` and refuse a
  field that is given twice.
-/

namespace LogAnomaly

/-- A number: an optional minus sign, the digits before and after the point and the exponent. -/
structure Json.Numeral where
  negative : Bool
  whole : List Char
  fraction : List Char
  exponent : Option Int
  deriving DecidableEq, Repr

/-- The name of a field: written with its own characters only, written with escapes, or with an
escape that stands for no character. -/
inductive Json.Key where
  | plain (name : String)
  | escaped (name : String)
  | broken
  deriving DecidableEq, Repr

/-- A JSON document. -/
inductive Json where
  | null
  | bool (value : Bool)
  | number (value : Json.Numeral)
  | string (text : String)
  /-- A string with an escape that stands for no character: it may be skipped, not read. -/
  | brokenString
  | array (items : List Json)
  | object (fields : List (Json.Key × Json))

namespace Json

/-- The name that a key stands for. -/
def Key.name? : Key → Option String
  | .plain name => some name
  | .escaped name => some name
  | .broken => none

/-- A number without sign, point and exponent. -/
def ofNat (n : Nat) : Json := .number ⟨false, Nat.toDigits 10 n, [], none⟩

/-- An object from names and values. -/
def record (fields : List (String × Json)) : Json :=
  .object (fields.map fun field => (.plain field.1, field.2))

/-- A value that may be missing. -/
def ofOption {α : Type} (write : α → Json) : Option α → Json
  | none => .null
  | some a => write a

/-- A list of values. -/
def ofList {α : Type} (write : α → Json) (items : List α) : Json := .array (items.map write)

end Json

end LogAnomaly
