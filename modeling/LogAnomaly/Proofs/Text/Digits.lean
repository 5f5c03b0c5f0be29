import LogAnomaly.Text.Digit

/-!
# Numbers in base ten

What `Nat.toDigits 10` writes is a run of ASCII digits, without needless zeros in front
(`toDigits_zero_cons`), and has the value of the number (`digitsValue_toDigits`).

* `takeWhile_digits`, `dropWhile_digits`: a run of digits is taken as a whole if no digit follows.
-/

namespace LogAnomaly.Text

theorem isAsciiDigit_eq_isDigit (c : Char) : isAsciiDigit c = c.isDigit := rfl

/-- What is written of a number are digits. -/
theorem isAsciiDigit_of_mem_toDigits {n : Nat} {c : Char} (h : c ∈ Nat.toDigits 10 n) :
    isAsciiDigit c = true := by
  rw [isAsciiDigit_eq_isDigit]
  exact Nat.isDigit_of_mem_toDigits (by decide) (by decide) h

/-- A number is read as it was written. -/
theorem digitsValue_toDigits (n : Nat) : digitsValue (Nat.toDigits 10 n) = n :=
  Nat.ofDigitChars_ten_toDigits

theorem digitsValue_zeros_append (count : Nat) (digits : List Char) :
    digitsValue (List.replicate count '0' ++ digits) = digitsValue digits := by
  induction count with
  | zero => rfl
  | succ count ih => exact ih

/-- A zero in front stands alone. -/
theorem toDigits_zero_cons {n : Nat} {rest : List Char} (h : Nat.toDigits 10 n = '0' :: rest) :
    rest = [] := by
  induction n using Nat.strongRecOn generalizing rest with
  | ind n ih =>
    rw [Nat.toDigits_eq_if (by decide)] at h
    split at h
    · exact (List.cons.inj h).2.symm
    · rename_i hn
      obtain ⟨c, tail, htail⟩ : ∃ c tail, Nat.toDigits 10 (n / 10) = c :: tail :=
        List.exists_cons_of_ne_nil Nat.toDigits_ne_nil
      rw [htail, List.cons_append] at h
      obtain ⟨rfl, -⟩ := List.cons.inj h
      obtain rfl := ih (n / 10) (by omega) htail
      have hzero := digitsValue_toDigits (n / 10)
      rw [htail] at hzero
      have : digitsValue ['0'] = 0 := rfl
      omega

variable {digits rest : List Char}

/-- Where a run of digits ends: what follows does not start with one. -/
def NoDigit (rest : List Char) : Prop := ∀ c ∈ rest.head?, isAsciiDigit c = false

theorem noDigit_nil : NoDigit [] := by simp [NoDigit]

theorem noDigit_cons {c : Char} (h : isAsciiDigit c = false) (rest : List Char) :
    NoDigit (c :: rest) := by
  simp [NoDigit, h]

theorem takeWhile_digits (hdigits : ∀ c ∈ digits, isAsciiDigit c = true)
    (hrest : NoDigit rest) :
    (digits ++ rest).takeWhile isAsciiDigit = digits := by
  rw [List.takeWhile_append_of_pos hdigits]
  cases rest with
  | nil => simp
  | cons c rest => simp [hrest c rfl]

theorem dropWhile_digits (hdigits : ∀ c ∈ digits, isAsciiDigit c = true)
    (hrest : NoDigit rest) :
    (digits ++ rest).dropWhile isAsciiDigit = rest := by
  rw [List.dropWhile_append_of_pos hdigits]
  cases rest with
  | nil => rfl
  | cons c rest => simp [hrest c rfl]

end LogAnomaly.Text
