import LogAnomaly.Proofs.Json.Records

/-!
# Floats as documents

* `isAsciiDigit_shortest`: the shortest digits of a float are digits;
* `FloatReadsBack`: the text of a float is read as the same float. Readers compute in floats, so this
  is not so for every float;
* `FloatReadsBack.canonical`: then the text is that of a number as it is written.
-/

namespace LogAnomaly.Decimal

open LogAnomaly.Text

theorem isAsciiDigit_significant {n : Nat} : ∀ c ∈ significant n, isAsciiDigit c = true := by
  intro c hc
  rw [significant, List.mem_reverse] at hc
  have hmem := List.mem_reverse.1 ((List.dropWhile_sublist _).subset hc)
  exact isAsciiDigit_of_mem_toDigits hmem

theorem isAsciiDigit_shortest (mantissa : Nat) (exponent : Int) (tie : Tie) :
    ∀ c ∈ (shortest mantissa exponent tie).digits, isAsciiDigit c = true := by
  rw [shortest]
  dsimp only
  split <;> exact isAsciiDigit_significant

theorem isAsciiDigit_zeros (n : Nat) : ∀ c ∈ zeros n, isAsciiDigit c = true := by
  intro c hc
  rw [List.eq_of_mem_replicate hc]
  rfl

end LogAnomaly.Decimal

namespace LogAnomaly.Json

open LogAnomaly.Text LogAnomaly.Decimal

/-- However a float is laid out, its number is made of digits. -/
theorem isAsciiDigit_numeralOfDigits (negative : Bool) {d : Digits}
    (h : ∀ c ∈ d.digits, isAsciiDigit c = true) :
    (∀ c ∈ (numeralOfDigits negative d).whole, isAsciiDigit c = true) ∧
      ∀ c ∈ (numeralOfDigits negative d).fraction, isAsciiDigit c = true := by
  have hzero : ∀ c ∈ ['0'], isAsciiDigit c = true := isAsciiDigit_zeros 1
  have htake : ∀ count, ∀ c ∈ d.digits.take count, isAsciiDigit c = true :=
    fun _ c hc => h c (List.mem_of_mem_take hc)
  have hdrop : ∀ count, ∀ c ∈ d.digits.drop count, isAsciiDigit c = true :=
    fun _ c hc => h c (List.mem_of_mem_drop hc)
  rw [numeralOfDigits]
  split
  · split
    · exact ⟨List.forall_mem_append.2 ⟨h, isAsciiDigit_zeros _⟩, hzero⟩
    · exact ⟨htake _, hdrop _⟩
  · split
    · exact ⟨hzero, List.forall_mem_append.2 ⟨isAsciiDigit_zeros _, h⟩⟩
    · exact ⟨htake _, hdrop _⟩

/-- The text of a float is read as the same float. -/
def FloatReadsBack (x : Float) : Prop := (parse? (ofFloat x).pretty).bind float? = some x

instance : DecidablePred FloatReadsBack := fun x =>
  inferInstanceAs (Decidable ((parse? (ofFloat x).pretty).bind float? = some x))

/-- A number made of digits that is a document at all is one as it is written. -/
theorem Canonical.of_parse? {n : Numeral} (hwhole : ∀ c ∈ n.whole, isAsciiDigit c = true)
    (hfraction : ∀ c ∈ n.fraction, isAsciiDigit c = true) {v : Json}
    (h : parse? (Json.number n).pretty = some v) : (Json.number n).Canonical := by
  have hhead := Numeral.head?_write hwhole (.inr rfl : n.whole ≠ [] ∨ ([] : List Char) = [])
  have hskip : skipSpace (n.write []) = n.write [] := by
    cases htext : n.write [] with
    | nil => rfl
    | cons c tail =>
      rw [htext] at hhead
      exact skipSpace_cons (isSpace_of_number (hhead c rfl)).1 tail
  rw [parse?, pretty, writePretty, String.toList_ofList, parseChars?, hskip,
    readValue_number hhead] at h
  cases hread : readNumber (n.write []) with
  | none =>
    rw [hread] at h
    cases h
  | some found => exact .number (.of_readNumber hwhole hfraction hread)

theorem FloatReadsBack.canonical {x : Float} (h : FloatReadsBack x) : (ofFloat x).Canonical := by
  obtain ⟨v, hparse, -⟩ := Option.bind_eq_some_iff.1 h
  revert hparse
  rw [ofFloat]
  split
  · exact fun _ => .null
  · exact fun _ => .null
  · exact fun hparse => .of_parse? (isAsciiDigit_zeros 1) (isAsciiDigit_zeros 1) hparse
  · have hdigits := fun negative mantissa exponent => isAsciiDigit_numeralOfDigits negative
      (isAsciiDigit_shortest mantissa exponent .toEven)
    exact fun hparse => .of_parse? (hdigits _ _ _).1 (hdigits _ _ _).2 hparse

/-- The number that is written for such a float has its value. -/
theorem FloatReadsBack.float? {x : Float} (h : FloatReadsBack x) : (ofFloat x).float? = some x := by
  have hparse := h
  rwa [FloatReadsBack, parse?_pretty h.canonical, Option.bind_some] at hparse

end LogAnomaly.Json
