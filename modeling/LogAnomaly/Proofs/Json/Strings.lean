import LogAnomaly.Json.Printer
import LogAnomaly.Json.Reader

/-!
# Strings that read back

* `readStringFrom_escapeChar`: a character, however it is written, is one step of the reader;
* `readString_write`: a string is read as it was written, whatever its characters;
* `Spelled`: a name without characters that need an escape. Such a name is read as a plain one
  (`writtenContent_key`).
-/

namespace LogAnomaly.Json

theorem hexValue?_digitChar : ∀ {d : Nat}, d < 16 → hexValue? (Nat.digitChar d) = some d := by
  decide

/-- What the reader finds where a character is written. -/
def writtenPiece (c : Char) : StringPiece := if escapeChar c = [c] then .self c else .escape c

/-- The escape of a control character. -/
theorem readEscape_control {c : Char} (h : c.toNat < 0x20) (rest : List Char) :
    readEscape ('u' :: '0' :: '0' :: Nat.digitChar (c.toNat / 16) :: Nat.digitChar (c.toNat % 16) ::
      rest) = some (.escape c, rest) := by
  have hhigh := hexValue?_digitChar (d := c.toNat / 16) (by omega)
  have hlow := hexValue?_digitChar (d := c.toNat % 16) (by omega)
  have hzero : hexValue? '0' = some 0 := by decide
  have hcode : readFourHex ('0' :: '0' :: Nat.digitChar (c.toNat / 16) ::
      Nat.digitChar (c.toNat % 16) :: rest) = some (c.toNat, rest) := by
    simp only [readFourHex, hzero, hhigh, hlow, Option.bind_eq_bind, Option.bind_some]
    congr 2
    omega
  have hbelow : c.toNat < 0xD800 := by omega
  rw [readEscape, readCode, hcode]
  simp [hbelow]

/-- A written character is one step of the reader. -/
theorem readStringFrom_escapeChar (fuel : Nat) (pieces : List StringPiece) (c : Char)
    (rest : List Char) :
    readStringFrom (fuel + 1) pieces (escapeChar c ++ rest) =
      readStringFrom fuel (writtenPiece c :: pieces) rest := by
  unfold writtenPiece escapeChar
  split
  case h_8 =>
    split
    · rename_i hcontrol
      simp [readStringFrom, readEscape_control hcontrol]
    · rename_i hcontrol
      simp [readStringFrom, hcontrol]
  all_goals rfl

/-- The content that the reader makes of a written text. -/
def writtenContent (chars : List Char) : StringContent :=
  ⟨chars, chars.any fun c => escapeChar c != [c], false⟩

theorem foldr_writtenPiece (chars : List Char) :
    (chars.map writtenPiece).foldr (fun piece content => content.cons piece) ⟨[], false, false⟩ =
      writtenContent chars := by
  induction chars with
  | nil => rfl
  | cons c chars ih =>
    rw [List.map_cons, List.foldr_cons, ih, writtenPiece]
    by_cases hself : escapeChar c = [c]
    · simp [writtenContent, StringContent.cons, hself]
    · simp [writtenContent, StringContent.cons, hself]

theorem readStringFrom_write (chars : List Char) (fuel : Nat) (pieces : List StringPiece)
    (rest : List Char) :
    readStringFrom (fuel + chars.length + 1) pieces (chars.flatMap escapeChar ++ '"' :: rest) =
      some (((chars.map writtenPiece).reverse ++ pieces).foldl
        (fun content piece => content.cons piece) ⟨[], false, false⟩, rest) := by
  induction chars generalizing pieces with
  | nil => rfl
  | cons c chars ih =>
    rw [List.flatMap_cons, List.append_assoc, List.length_cons, ← Nat.add_assoc,
      readStringFrom_escapeChar, ih]
    simp

theorem escapeChar_ne_nil (c : Char) : escapeChar c ≠ [] := by
  unfold escapeChar
  split
  case h_8 => split <;> simp
  all_goals simp

theorem length_le_flatMap_escapeChar (chars : List Char) :
    chars.length ≤ (chars.flatMap escapeChar).length := by
  induction chars with
  | nil => exact Nat.le_refl _
  | cons c chars ih =>
    have := List.length_pos_iff.2 (escapeChar_ne_nil c)
    rw [List.flatMap_cons, List.length_append, List.length_cons]
    omega

/-- A string is read as it was written, up to its closing quote. -/
theorem readString_write (chars rest : List Char) :
    readString (chars.flatMap escapeChar ++ '"' :: rest) = some (writtenContent chars, rest) := by
  have hlength := length_le_flatMap_escapeChar chars
  obtain ⟨fuel, hfuel⟩ : ∃ fuel,
      (chars.flatMap escapeChar ++ '"' :: rest).length = fuel + chars.length := by
    refine ⟨_, (Nat.sub_add_cancel ?_).symm⟩
    rw [List.length_append]
    omega
  rw [readString, hfuel, readStringFrom_write, List.append_nil, List.foldl_reverse,
    foldr_writtenPiece]

theorem writtenContent_value (text : String) :
    (writtenContent text.toList).value = .string text := by
  simp [writtenContent, StringContent.value]

/-- A name without characters that need an escape. -/
def Spelled (name : String) : Prop := ∀ c ∈ name.toList, escapeChar c = [c]

instance : DecidablePred Spelled := fun _ => List.decidableBAll _ _

/-- Such a name is read as a plain one. -/
theorem writtenContent_key {name : String} (h : Spelled name) :
    (writtenContent name.toList).key = .plain name := by
  have hany : (name.toList.any fun c => escapeChar c != [c]) = false :=
    List.any_eq_false.2 fun c hc => by simp [h c hc]
  simp [writtenContent, StringContent.key, hany]

end LogAnomaly.Json
