import LogAnomaly.Json.Printer
import LogAnomaly.Json.Reader
import LogAnomaly.Proofs.Text.Digits

/-!
# Numbers that read back

* `Numeral.Canonical`: digits before the point and perhaps after it, the first one not needlessly a
  zero;
* `Delimited`: what may follow a value;
* `readNumber_write`: such a number is read as it was written;
* `Numeral.Canonical.of_readNumber`: a number made of digits that is read at all is such a number.
-/

namespace LogAnomaly.Json

open LogAnomaly.Text LogAnomaly.Decimal

/-- A number as it is written. -/
structure Numeral.Canonical (n : Numeral) : Prop where
  whole_ne_nil : n.whole ≠ []
  whole_digits : ∀ c ∈ n.whole, isAsciiDigit c = true
  zero_alone : ∀ rest, n.whole = '0' :: rest → rest = []
  fraction_digits : ∀ c ∈ n.fraction, isAsciiDigit c = true

/-- What may follow a value: nothing, a comma or a line break. -/
def Delimited (rest : List Char) : Prop := ∀ c ∈ rest.head?, c = ',' ∨ c = '\n'

variable {digits rest : List Char}

/-! ## Digits -/

theorem readDigits_append (hne : digits ≠ []) (hdigits : ∀ c ∈ digits, isAsciiDigit c = true)
    (hrest : NoDigit rest) :
    readDigits (digits ++ rest) = some (digits, rest) := by
  rw [readDigits, takeWhile_digits hdigits hrest, dropWhile_digits hdigits hrest]
  simp [hne]

theorem readWhole_append (hne : digits ≠ []) (hdigits : ∀ c ∈ digits, isAsciiDigit c = true)
    (hzero : ∀ tail, digits = '0' :: tail → tail = [])
    (hrest : NoDigit rest) :
    readWhole (digits ++ rest) = some (digits, rest) := by
  rw [readWhole, readDigits_append hne hdigits hrest]
  split
  · rename_i heq
    cases hzero _ (congrArg Prod.fst (Option.some.inj heq))
  · rfl

/-- If digits are read in front of what is none, there are some, and a zero in front is alone. -/
theorem readWhole_append_inv (hdigits : ∀ c ∈ digits, isAsciiDigit c = true)
    (hrest : NoDigit rest) {found : List Char × List Char}
    (h : readWhole (digits ++ rest) = some found) :
    digits ≠ [] ∧ ∀ tail, digits = '0' :: tail → tail = [] := by
  have hne : digits ≠ [] := by
    rintro rfl
    rw [readWhole, readDigits, takeWhile_digits hdigits hrest] at h
    cases h
  refine ⟨hne, fun tail htail => ?_⟩
  rw [readWhole, readDigits_append hne hdigits hrest, htail] at h
  cases tail with
  | nil => rfl
  | cons => cases h

/-! ## The parts of a number -/

/-- An exponent, if there is one. -/
def writeOptionalExponent (exponent : Option Int) (rest : List Char) : List Char :=
  match exponent with
  | none => rest
  | some e => 'e' :: writeExponent e rest

/-- The digits after the point, if there are any. -/
def writeFraction (fraction rest : List Char) : List Char :=
  if fraction.isEmpty then rest else '.' :: (fraction ++ rest)

theorem Numeral.write_eq (n : Numeral) (rest : List Char) :
    n.write rest = signed n.negative
      (n.whole ++ writeFraction n.fraction (writeOptionalExponent n.exponent rest)) := rfl

theorem head?_writeOptionalExponent (exponent : Option Int) (hrest : Delimited rest) :
    ∀ c ∈ (writeOptionalExponent exponent rest).head?, c = 'e' ∨ c = ',' ∨ c = '\n' := by
  cases exponent with
  | none => exact fun c hc => .inr (hrest c hc)
  | some e => exact fun c hc => .inl (Option.some.inj hc).symm

theorem noDigit_writeFraction (fraction : List Char) (exponent : Option Int)
    (hrest : Delimited rest) :
    NoDigit (writeFraction fraction (writeOptionalExponent exponent rest)) := by
  intro c hc
  rw [writeFraction] at hc
  split at hc
  · rcases head?_writeOptionalExponent exponent hrest c hc with rfl | rfl | rfl <;> rfl
  · obtain rfl := Option.some.inj hc
    rfl

theorem readExponent_write (exponent : Option Int) (hrest : Delimited rest) :
    readExponent (writeOptionalExponent exponent rest) = some (exponent, rest) := by
  have hdigit : NoDigit rest := fun c hc => by
    rcases hrest c hc with rfl | rfl <;> rfl
  cases exponent with
  | none =>
    cases rest with
    | nil => rfl
    | cons c rest => rcases hrest c rfl with rfl | rfl <;> rfl
  | some e =>
    have hread : readDigits (Nat.toDigits 10 e.natAbs ++ rest) =
        some (Nat.toDigits 10 e.natAbs, rest) :=
      readDigits_append Nat.toDigits_ne_nil (fun _ => isAsciiDigit_of_mem_toDigits) hdigit
    rw [writeOptionalExponent, writeExponent]
    by_cases hneg : e < 0
    · simp only [readExponent, hneg, if_true, beq_self_eq_true, Bool.true_or, hread,
        digitsValue_toDigits, Option.some.injEq, Prod.mk.injEq, and_true]
      omega
    · simp only [readExponent, hneg, if_false, if_true, beq_self_eq_true, Bool.true_or, hread,
        digitsValue_toDigits, Option.some.injEq, Prod.mk.injEq, and_true, Bool.false_eq_true]
      omega

theorem readFraction_write {fraction : List Char}
    (hdigits : ∀ c ∈ fraction, isAsciiDigit c = true) (exponent : Option Int)
    (hrest : Delimited rest) :
    readFraction (writeFraction fraction (writeOptionalExponent exponent rest)) =
      some (fraction, writeOptionalExponent exponent rest) := by
  have hhead := head?_writeOptionalExponent exponent hrest
  rw [writeFraction]
  cases fraction with
  | nil =>
    rw [List.isEmpty_nil, if_pos rfl]
    cases htail : writeOptionalExponent exponent rest with
    | nil => rfl
    | cons c tail =>
      rw [htail] at hhead
      rcases hhead c rfl with rfl | rfl | rfl <;> rfl
  | cons d fraction =>
    rw [List.isEmpty_cons, if_neg Bool.false_ne_true, readFraction]
    refine readDigits_append (List.cons_ne_nil _ _) hdigits fun c hc => ?_
    rcases hhead c hc with rfl | rfl | rfl <;> rfl

/-! ## Numbers -/

namespace Numeral

variable {n : Numeral}

theorem head?_unsigned (hwhole : ∀ c ∈ n.whole, isAsciiDigit c = true)
    (hrest : n.whole ≠ [] ∨ rest = []) :
    ∀ c ∈ (n.whole ++ writeFraction n.fraction (writeOptionalExponent n.exponent rest)).head?,
      isAsciiDigit c = true ∨ c = '.' ∨ c = 'e' := by
  intro c hc
  cases hdigits : n.whole with
  | cons d tail =>
    rw [hdigits] at hc
    obtain rfl := Option.some.inj hc
    exact .inl (hwhole d (by simp [hdigits]))
  | nil =>
    obtain rfl := hrest.resolve_left fun hne => hne hdigits
    rw [hdigits, List.nil_append, writeFraction] at hc
    split at hc
    · cases hexponent : n.exponent with
      | none =>
        rw [hexponent] at hc
        cases hc
      | some e =>
        rw [hexponent] at hc
        exact .inr (.inr (Option.some.inj hc).symm)
    · exact .inr (.inl (Option.some.inj hc).symm)

theorem length_write (hne : n.whole ≠ []) (rest : List Char) :
    rest.length < (n.write rest).length := by
  have hwhole := List.length_pos_iff.2 hne
  have hexponent : rest.length ≤ (writeOptionalExponent n.exponent rest).length := by
    cases n.exponent with
    | none => exact Nat.le_refl _
    | some e =>
      rw [writeOptionalExponent, writeExponent, List.length_cons, List.length_cons,
        List.length_append]
      omega
  have hfraction : (writeOptionalExponent n.exponent rest).length ≤
      (writeFraction n.fraction (writeOptionalExponent n.exponent rest)).length := by
    rw [writeFraction]
    split
    · exact Nat.le_refl _
    · rw [List.length_cons, List.length_append]
      omega
  rw [write_eq, signed]
  split
  · rw [List.length_cons, List.length_append]
    omega
  · rw [List.length_append]
    omega

/-- How a number starts. -/
theorem head?_write (hwhole : ∀ c ∈ n.whole, isAsciiDigit c = true)
    (hrest : n.whole ≠ [] ∨ rest = []) :
    ∀ c ∈ (n.write rest).head?, isAsciiDigit c = true ∨ c = '.' ∨ c = 'e' ∨ c = '-' := by
  intro c hc
  rw [write_eq] at hc
  cases hneg : n.negative with
  | true =>
    rw [hneg] at hc
    exact .inr (.inr (.inr (Option.some.inj hc).symm))
  | false =>
    rw [hneg] at hc
    rcases head?_unsigned hwhole hrest c hc with hdigit | rfl | rfl
    · exact .inl hdigit
    · exact .inr (.inl rfl)
    · exact .inr (.inr (.inl rfl))

/-- Apart from its sign, which it does not start with, a number is read without one. -/
theorem readNumber_write_eq (hwhole : ∀ c ∈ n.whole, isAsciiDigit c = true)
    (hrest : n.whole ≠ [] ∨ rest = []) :
    readNumber (n.write rest) = readUnsigned n.negative
      (n.whole ++ writeFraction n.fraction (writeOptionalExponent n.exponent rest)) := by
  have hhead := head?_unsigned hwhole hrest
  rw [write_eq]
  cases n.negative with
  | true => rfl
  | false =>
    rw [signed, if_neg Bool.false_ne_true, readNumber]
    intro tail htail
    rw [htail] at hhead
    rcases hhead '-' rfl with h | h | h <;> cases h

/-- A number is read as it was written. -/
theorem Canonical.readNumber_write (h : n.Canonical) (hrest : Delimited rest) :
    readNumber (n.write rest) = some (n, rest) := by
  rw [readNumber_write_eq h.whole_digits (.inl h.whole_ne_nil), readUnsigned,
    readWhole_append h.whole_ne_nil h.whole_digits h.zero_alone (noDigit_writeFraction _ _ hrest)]
  simp only [Option.bind_eq_bind, Option.bind_some, readFraction_write h.fraction_digits _ hrest,
    readExponent_write _ hrest]

/-- What can be read at all of digits is a number as it is written. -/
theorem Canonical.of_readNumber (hwhole : ∀ c ∈ n.whole, isAsciiDigit c = true)
    (hfraction : ∀ c ∈ n.fraction, isAsciiDigit c = true) {found : Numeral × List Char}
    (h : readNumber (n.write []) = some found) : n.Canonical := by
  rw [readNumber_write_eq hwhole (.inr rfl), readUnsigned] at h
  obtain ⟨digits, hdigits, -⟩ := Option.bind_eq_some_iff.1 h
  obtain ⟨hne, hzero⟩ :=
    readWhole_append_inv hwhole (noDigit_writeFraction _ _ (by simp [Delimited])) hdigits
  exact ⟨hne, hwhole, hzero, hfraction⟩

end Numeral

end LogAnomaly.Json
