import LogAnomaly.Json.Basic
import LogAnomaly.Decimal.Binary64
import LogAnomaly.Text.Digit
import LogAnomaly.Word

/-!
# Values of a document

Readers of single values and of records. All of them are exact about the form: an integer has no
point and no exponent, `null` stands only where a value may be missing, a known field comes once.

* `Json.nat?`, `Json.float?`, `Json.text?`, `Json.bool?`: single values;
* `Json.option?`, `Json.list?`: values that may be missing, lists;
* `Json.record?`: the fields of a record, by name or by place.
-/

namespace LogAnomaly.Json

open LogAnomaly.Decimal LogAnomaly.Text

/-- The integer that a number without sign, point and exponent stands for. -/
def Numeral.nat? (n : Numeral) (limit : Nat) : Option Nat :=
  if !n.negative && n.fraction.isEmpty && n.exponent.isNone then
    let value := digitsValue n.whole
    if value ≤ limit then some value else none
  else none

/-- An integer from 0 to `limit`. -/
def natUpTo? (limit : Nat) : Json → Option Nat
  | .number n => n.nat? limit
  | _ => none

/-- An integer of 64 bits. -/
def nat? (value : Json) : Option Nat := value.natUpTo? maxWord

/-- Digits taken into a word of 64 bits: the digits taken so far, and the power of ten that makes
up for those that did not fit. -/
structure Significand where
  value : Nat
  exponent : Int

/-- Takes the digits before the point; from the first one that does not fit, each only shifts. -/
def takeWhole (digits : List Char) : Significand :=
  let (value, dropped) := digits.foldl (fun (value, dropped) c =>
    let next := 10 * value + digitValue c
    if dropped = 0 && next ≤ maxWord then (next, 0) else (value, dropped + 1)) (0, 0)
  ⟨value, (dropped : Nat)⟩

/-- Takes the digits after the point up to the first one that does not fit. -/
def Significand.takeFraction (s : Significand) (digits : List Char) : Significand :=
  let (value, taken, _) := digits.foldl (fun (value, taken, full) c =>
    let next := 10 * value + digitValue c
    if !full && next ≤ maxWord then (next, taken + 1, false) else (value, taken, true))
    (s.value, 0, false)
  ⟨value, s.exponent - (taken : Nat)⟩

/-- The power of ten as a float. -/
def tenTo (e : Nat) : Float := floatOfDecimal false 1 e

/-- `x · 10 ^ e`, computed in floats: one factor at most up to `10 ^ 308`, and divisions by that
power for the rest. Nothing comes of a result that is too large. -/
def scaleTen (x : Float) (e : Int) : Option Float :=
  if e.natAbs ≤ 308 then
    if 0 ≤ e then
      let y := x * tenTo e.toNat
      if y.isInf then none else some y
    else some (x / tenTo e.natAbs)
  else if x == 0 then some x
  else if 0 ≤ e then none
  else scaleTen (x / tenTo 308) (e + 308)
termination_by e.natAbs
decreasing_by omega

/-- The float that a number stands for: its leading digits as an integer of 64 bits, scaled by a
power of ten. -/
def Numeral.float? (n : Numeral) : Option Float :=
  let s := (takeWhole n.whole).takeFraction n.fraction
  let magnitude := scaleTen s.value.toUInt64.toFloat (s.exponent + n.exponent.getD 0)
  magnitude.map fun x => if n.negative then -x else x

/-- A float; integers are floats too. -/
def float? : Json → Option Float
  | .number n => n.float?
  | _ => none

/-- A text. -/
def text? : Json → Option String
  | .string text => some text
  | _ => none

/-- A truth value. -/
def bool? : Json → Option Bool
  | .bool value => some value
  | _ => none

/-- A value that may be missing. -/
def option? {α : Type} (read : Json → Option α) : Json → Option (Option α)
  | .null => some none
  | value => (read value).map some

/-- A list. -/
def list? {α : Type} (read : Json → Option α) : Json → Option (List α)
  | .array items => items.mapM read
  | _ => none

/-- What becomes of a record that lacks a field. -/
inductive Absence where
  /-- It is refused. -/
  | refused
  /-- The field is `null`; in a record that is given by place it is refused. -/
  | nullable
  /-- The field has a default. -/
  | defaulted
  deriving DecidableEq, Repr

/-- The value of a field that is given at most once. -/
def field? (fields : List (Key × Json)) (name : String) (absence : Absence) :
    Option (Option Json) :=
  match fields.filter fun field => field.1.name? == some name with
  | [] =>
    match absence with
    | .refused => none
    | .nullable => some (some .null)
    | .defaulted => some none
  | [(_, value)] => some (some value)
  | _ => none

/-- The value at a place. -/
def place? (items : List Json) (index : Nat) (absence : Absence) : Option (Option Json) :=
  match items[index]?, absence with
  | some value, _ => some (some value)
  | none, .defaulted => some none
  | none, _ => none

/-- The fields of a record in the order of `names`: an object gives them by name, and may hold
others, an array by place. -/
def record? (names : List (String × Absence)) : Json → Option (List (Option Json))
  | .object fields =>
    if fields.all fun field => field.1.name?.isSome then
      names.mapM fun (name, absence) => field? fields name absence
    else none
  | .array items =>
    if items.length ≤ names.length then
      names.zipIdx.mapM fun ((_, absence), index) => place? items index absence
    else none
  | _ => none

end LogAnomaly.Json
