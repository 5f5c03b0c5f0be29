import LogAnomaly.Proofs.Json.Numbers
import LogAnomaly.Proofs.Json.Strings

/-!
# Documents that read back

* `Json.Canonical`: what a writer of documents makes: numbers as they are written, records whose
  names need no escape;
* `Json.Reads`: a value is read as it was written, whatever follows it. It holds of arrays and of
  records if it holds of what they are made of (`Reads.array`, `Reads.record`);
* `Json.parse?_pretty`: a document is read as it was written.

A reader takes at most one step for each character of its text, which is the bound on its steps.
-/

namespace LogAnomaly.Json

open LogAnomaly.Text

/-- What a writer of documents makes. -/
inductive Canonical : Json → Prop where
  | null : Canonical .null
  | bool (value : Bool) : Canonical (.bool value)
  | number {n : Numeral} (h : n.Canonical) : Canonical (.number n)
  | string (text : String) : Canonical (.string text)
  | array {items : List Json} (h : ∀ item ∈ items, Canonical item) : Canonical (.array items)
  | record {fields : List (String × Json)} (hnames : ∀ field ∈ fields, Spelled field.1)
      (h : ∀ field ∈ fields, Canonical field.2) : Canonical (.record fields)

/-- A value is read as it was written, whatever follows it. -/
structure Reads (v : Json) : Prop where
  starts : ∀ depth rest, ∃ c tail, writePretty v depth rest = c :: tail ∧ isSpace c = false ∧
    c ≠ ']'
  longer : ∀ depth rest, rest.length ≤ (writePretty v depth rest).length
  reads : ∀ fuel depth rest, Delimited rest → (writePretty v depth rest).length < fuel →
    readValue fuel (writePretty v depth rest) = some (v, rest)

variable {rest : List Char}

/-! ## What stands between values -/

theorem skipSpace_cons {c : Char} (h : isSpace c = false) (tail : List Char) :
    skipSpace (c :: tail) = c :: tail := by
  simp [skipSpace, h]

theorem Reads.skipSpace_write {v : Json} (h : Reads v) (depth : Nat) (rest : List Char) :
    skipSpace (writePretty v depth rest) = writePretty v depth rest := by
  obtain ⟨c, tail, hstart, hspace, -⟩ := h.starts depth rest
  rw [hstart, skipSpace_cons hspace]

/-- A line break is skipped together with the indentation after it. -/
theorem skipSpace_newLine (depth : Nat) (s : List Char) :
    skipSpace (newLine depth s) = skipSpace s := by
  have hspaces : ∀ count : Nat, skipSpace (List.replicate count ' ' ++ s) = skipSpace s := by
    intro count
    induction count with
    | zero => rfl
    | succ count ih => exact ih
  exact hspaces (2 * depth)

theorem length_newLine (depth : Nat) (s : List Char) : s.length < (newLine depth s).length := by
  rw [newLine, List.length_cons, List.length_append]
  omega

theorem delimited_newLine (depth : Nat) (s : List Char) : Delimited (newLine depth s) :=
  fun _ hc => .inr (Option.some.inj hc).symm

theorem delimited_comma (s : List Char) : Delimited (',' :: s) :=
  fun _ hc => .inl (Option.some.inj hc).symm

/-- A closing bracket on a line of its own. -/
structure Closes (bracket : Char) (last rest : List Char) : Prop where
  delimited : Delimited last
  skipSpace_eq : skipSpace last = bracket :: rest

theorem closes_newLine {bracket : Char} (h : isSpace bracket = false) (depth : Nat)
    (rest : List Char) : Closes bracket (newLine depth (bracket :: rest)) rest where
  delimited := delimited_newLine _ _
  skipSpace_eq := (skipSpace_newLine ..).trans (skipSpace_cons h rest)

/-! ## Single values -/

/-- Reading takes at least one step. -/
theorem Reads.of_step {v : Json}
    (starts : ∀ depth rest, ∃ c tail, writePretty v depth rest = c :: tail ∧ isSpace c = false ∧
      c ≠ ']')
    (longer : ∀ depth rest, rest.length ≤ (writePretty v depth rest).length)
    (step : ∀ fuel depth rest, Delimited rest → (writePretty v depth rest).length ≤ fuel →
      readValue (fuel + 1) (writePretty v depth rest) = some (v, rest)) : Reads v where
  starts := starts
  longer := longer
  reads fuel depth rest hrest hfuel := by
    obtain ⟨less, rfl⟩ := Nat.exists_eq_add_one_of_ne_zero (Nat.ne_zero_of_lt hfuel)
    exact step less depth rest hrest (Nat.le_of_lt_succ hfuel)

/-- A word is read as what it stands for. -/
theorem Reads.word {v : Json} (c : Char) (word : List Char)
    (hwrite : ∀ depth rest, writePretty v depth rest = c :: (word ++ rest))
    (hspace : isSpace c = false) (hbracket : c ≠ ']')
    (hread : ∀ fuel rest, readValue (fuel + 1) (c :: (word ++ rest)) = some (v, rest)) :
    Reads v := by
  refine .of_step (fun depth rest => ⟨c, _, hwrite depth rest, hspace, hbracket⟩)
    (fun depth rest => ?_) fun fuel depth rest _ _ => ?_
  · rw [hwrite, List.length_cons, List.length_append]
    omega
  · rw [hwrite, hread]

theorem Reads.null : Reads .null :=
  .word 'n' ['u', 'l', 'l'] (fun _ _ => rfl) rfl (by decide) fun _ _ => rfl

theorem Reads.bool (value : Bool) : Reads (.bool value) := by
  cases value with
  | true =>
    exact .word 't' ['r', 'u', 'e'] (fun _ _ => rfl) rfl (by decide) fun _ _ => rfl
  | false =>
    exact .word 'f' ['a', 'l', 's', 'e'] (fun _ _ => rfl) rfl (by decide)
      fun _ _ => rfl

theorem length_writeString (text : String) (rest : List Char) :
    rest.length < (writeString text rest).length := by
  rw [writeString, List.length_cons, List.length_append, List.length_cons]
  omega

theorem Reads.string (text : String) : Reads (.string text) := by
  refine .of_step (fun _ _ => ⟨'"', _, rfl, rfl, by decide⟩)
    (fun _ rest => Nat.le_of_lt (length_writeString text rest)) fun fuel depth rest _ _ => ?_
  rw [writePretty, writeString, readValue, readString_write, ← writtenContent_value text]
  rfl

/-- Nothing but a number starts as numbers do. -/
theorem readValue_number {s : List Char}
    (hhead : ∀ c ∈ s.head?, isAsciiDigit c = true ∨ c = '.' ∨ c = 'e' ∨ c = '-') (fuel : Nat) :
    readValue (fuel + 1) s = (readNumber s).map fun (n, after) => (.number n, after) := by
  have hne : ∀ c ∈ ['n', 't', 'f', '"', '[', '{'], ∀ tail, s ≠ c :: tail := by
    rintro c hc tail rfl
    have hstart := hhead c rfl
    simp only [List.mem_cons, List.not_mem_nil, or_false] at hc
    rcases hc with rfl | rfl | rfl | rfl | rfl | rfl <;> revert hstart <;> decide
  rw [readValue]
  all_goals exact fun rest => hne _ (by simp) _

theorem isSpace_of_number {c : Char}
    (h : isAsciiDigit c = true ∨ c = '.' ∨ c = 'e' ∨ c = '-') : isSpace c = false ∧ c ≠ ']' := by
  have hne : ∀ d ∈ [' ', '\n', '\t', '\r', ']'], c ≠ d := by
    rintro d hd rfl
    simp only [List.mem_cons, List.not_mem_nil, or_false] at hd
    rcases hd with rfl | rfl | rfl | rfl | rfl <;> revert h <;> decide
  simp only [List.forall_mem_cons] at hne
  simp [isSpace, hne]

theorem Reads.number {n : Numeral} (h : n.Canonical) : Reads (.number n) := by
  have hhead : ∀ rest, ∀ c ∈ (n.write rest).head?,
      isAsciiDigit c = true ∨ c = '.' ∨ c = 'e' ∨ c = '-' := fun rest =>
    Numeral.head?_write h.whole_digits (.inl h.whole_ne_nil)
  have hlength := Numeral.length_write h.whole_ne_nil
  refine .of_step (fun depth rest => ?_) (fun _ rest => Nat.le_of_lt (hlength rest))
    fun fuel depth rest hrest _ => ?_
  · obtain ⟨c, tail, hstart⟩ : ∃ c tail, n.write rest = c :: tail :=
      List.exists_cons_of_length_pos (Nat.zero_lt_of_lt (hlength rest))
    exact ⟨c, tail, hstart, isSpace_of_number (hhead rest c (by rw [hstart]; rfl))⟩
  · rw [writePretty, readValue_number (hhead rest), h.readNumber_write hrest]
    rfl

/-! ## Arrays -/

section Items

variable {item : Json} {items : List Json} {last : List Char} {fuel : Nat}

theorem length_writePrettyItems (h : ∀ item ∈ items, Reads item) (depth : Nat)
    (rest : List Char) : rest.length ≤ (writePrettyItems items depth rest).length := by
  induction items with
  | nil => exact Nat.le_refl _
  | cons item items ih =>
    have hitems := ih fun i hi => h i (List.mem_cons_of_mem _ hi)
    have hitem := (h item List.mem_cons_self).longer depth (writePrettyItems items depth rest)
    have hline := length_newLine depth
      (writePretty item depth (writePrettyItems items depth rest))
    rw [writePrettyItems, List.length_cons]
    omega

/-- The items of an array are read up to its end. -/
theorem readItems_write (hlast : Closes ']' last rest) (h : ∀ i ∈ item :: items, Reads i)
    (depth : Nat) (before : List Json)
    (hfuel : (writePretty item depth (writePrettyItems items depth last)).length + 1 < fuel) :
    readItems fuel before (writePretty item depth (writePrettyItems items depth last)) =
      some (.array (before.reverse ++ item :: items), rest) := by
  induction items generalizing item fuel before with
  | nil =>
    obtain ⟨less, rfl⟩ := Nat.exists_eq_add_one_of_ne_zero (Nat.ne_zero_of_lt hfuel)
    rw [writePrettyItems] at hfuel ⊢
    have hread := (h item List.mem_cons_self).reads less depth last hlast.delimited (by omega)
    simp only [readItems, hread, hlast.skipSpace_eq, List.reverse_cons]
  | cons next items ih =>
    obtain ⟨less, rfl⟩ := Nat.exists_eq_add_one_of_ne_zero (Nat.ne_zero_of_lt hfuel)
    have hitem := h item List.mem_cons_self
    have hothers : ∀ i ∈ next :: items, Reads i := fun i hi => h i (List.mem_cons_of_mem _ hi)
    have hnext := hothers next List.mem_cons_self
    rw [writePrettyItems] at hfuel ⊢
    have hlonger := hitem.longer depth
      (',' :: newLine depth (writePretty next depth (writePrettyItems items depth last)))
    have hline := length_newLine depth (writePretty next depth (writePrettyItems items depth last))
    rw [List.length_cons] at hlonger
    have hread := hitem.reads less depth _ (delimited_comma (newLine depth
      (writePretty next depth (writePrettyItems items depth last)))) (by omega)
    have hrest : readItems less (item :: before) _ = _ := ih hothers (item :: before) (by omega)
    simp only [readItems, hread, skipSpace_cons (c := ',') rfl, skipSpace_newLine,
      hnext.skipSpace_write, hrest, List.reverse_cons, List.append_assoc, List.singleton_append]

/-- An array is read as it was written, item by item. -/
theorem Reads.array (h : ∀ item ∈ items, Reads item) : Reads (.array items) := by
  cases items with
  | nil => exact .word '[' [']'] (fun _ _ => rfl) rfl (by decide) fun _ _ => rfl
  | cons item items =>
    have hitem := h item List.mem_cons_self
    have hitems : ∀ i ∈ items, Reads i := fun i hi => h i (List.mem_cons_of_mem _ hi)
    refine .of_step (fun _ _ => ⟨'[', _, rfl, rfl, by decide⟩) (fun depth rest => ?_)
      fun fuel depth rest _ hfuel => ?_
    all_goals
      have hopen := length_newLine (depth + 1) (writePretty item (depth + 1)
        (writePrettyItems items (depth + 1) (newLine depth (']' :: rest))))
    · have hlonger := hitem.longer (depth + 1)
        (writePrettyItems items (depth + 1) (newLine depth (']' :: rest)))
      have hothers := length_writePrettyItems hitems (depth + 1) (newLine depth (']' :: rest))
      have hclose := length_newLine depth (']' :: rest)
      rw [List.length_cons] at hclose
      rw [writePretty, List.length_cons]
      omega
    · rw [writePretty, List.length_cons] at hfuel
      have hread : readItems fuel [] _ = _ :=
        readItems_write (closes_newLine rfl depth rest) h (depth + 1) [] (by omega)
      obtain ⟨c, tail, hstart, -, hbracket⟩ := hitem.starts (depth + 1)
        (writePrettyItems items (depth + 1) (newLine depth (']' :: rest)))
      rw [writePretty, readValue, skipSpace_newLine, hitem.skipSpace_write]
      split
      · rename_i hclose
        rw [hstart] at hclose
        exact absurd (List.cons.inj hclose).1 hbracket
      · exact hread

end Items

/-! ## Records -/

/-- A field with its plain name. -/
def plainField (field : String × Json) : Key × Json := (.plain field.1, field.2)

/-- A field in front of what follows it. -/
def writeField (field : String × Json) (depth : Nat) (rest : List Char) : List Char :=
  writeString field.1 (':' :: ' ' :: writePretty field.2 depth rest)

section Fields

variable {field : String × Json} {fields : List (String × Json)} {last : List Char} {fuel : Nat}

theorem writePretty_record (field : String × Json) (fields : List (String × Json)) (depth : Nat)
    (rest : List Char) :
    writePretty (.record (field :: fields)) depth rest =
      '{' :: newLine (depth + 1) (writeField field (depth + 1)
        (writePrettyFields (fields.map plainField) (depth + 1) (newLine depth ('}' :: rest)))) :=
  rfl

theorem writePrettyFields_cons (field : String × Json) (fields : List (String × Json))
    (depth : Nat) (rest : List Char) :
    writePrettyFields ((field :: fields).map plainField) depth rest =
      ',' :: newLine depth (writeField field depth
        (writePrettyFields (fields.map plainField) depth rest)) := rfl

theorem length_writeField (field : String × Json) (depth : Nat) (rest : List Char) :
    (writePretty field.2 depth rest).length < (writeField field depth rest).length := by
  have hname := length_writeString field.1 (':' :: ' ' :: writePretty field.2 depth rest)
  rw [List.length_cons, List.length_cons] at hname
  rw [writeField]
  omega

theorem length_writePrettyFields (h : ∀ field ∈ fields, Reads field.2) (depth : Nat)
    (rest : List Char) :
    rest.length ≤ (writePrettyFields (fields.map plainField) depth rest).length := by
  induction fields with
  | nil => exact Nat.le_refl _
  | cons field fields ih =>
    have hfields := ih fun f hf => h f (List.mem_cons_of_mem _ hf)
    have hvalue := (h field List.mem_cons_self).longer depth
      (writePrettyFields (fields.map plainField) depth rest)
    have hfield := length_writeField field depth
      (writePrettyFields (fields.map plainField) depth rest)
    have hline := length_newLine depth (writeField field depth
      (writePrettyFields (fields.map plainField) depth rest))
    rw [writePrettyFields_cons, List.length_cons]
    omega

theorem skipSpace_writeField (field : String × Json) (depth : Nat) (rest : List Char) :
    skipSpace (writeField field depth rest) = writeField field depth rest := rfl

/-- Name and value of a field are read as they were written. -/
theorem readField_write (hname : Spelled field.1) (hvalue : Reads field.2)
    (hrest : Delimited rest) {depth : Nat} (hfuel : (writeField field depth rest).length ≤ fuel) :
    ∃ tail content, writeField field depth rest = '"' :: tail ∧
      readString tail = some (content, ':' :: ' ' :: writePretty field.2 depth rest) ∧
      (content.key, field.2) = plainField field ∧
      readValue fuel (skipSpace (' ' :: writePretty field.2 depth rest)) =
        some (field.2, rest) := by
  have hskip : skipSpace (' ' :: writePretty field.2 depth rest) =
      writePretty field.2 depth rest := hvalue.skipSpace_write depth rest
  have hlength := length_writeField field depth rest
  refine ⟨_, _, rfl, readString_write .., ?_, ?_⟩
  · rw [writtenContent_key hname]
    rfl
  · rw [hskip]
    exact hvalue.reads fuel depth rest hrest (by omega)

/-- The fields of a record are read up to its end. -/
theorem readFields_write (hlast : Closes '}' last rest)
    (hnames : ∀ f ∈ field :: fields, Spelled f.1) (hvalues : ∀ f ∈ field :: fields, Reads f.2)
    (depth : Nat) (before : List (Key × Json)) (hfuel : (writeField field depth
      (writePrettyFields (fields.map plainField) depth last)).length < fuel) :
    readFields fuel before
        (writeField field depth (writePrettyFields (fields.map plainField) depth last)) =
      some (.object (before.reverse ++ (field :: fields).map plainField), rest) := by
  induction fields generalizing field fuel before with
  | nil =>
    obtain ⟨less, rfl⟩ := Nat.exists_eq_add_one_of_ne_zero (Nat.ne_zero_of_lt hfuel)
    obtain ⟨tail, content, htext, hstring, hkey, hread⟩ := readField_write
      (hnames field List.mem_cons_self) (hvalues field List.mem_cons_self) hlast.delimited
      (Nat.le_of_lt_succ hfuel)
    rw [List.map_nil, writePrettyFields]
    simp only [htext, readFields, hstring, skipSpace_cons (c := ':') rfl, hread, hkey,
      hlast.skipSpace_eq, List.reverse_cons]
    rfl
  | cons next fields ih =>
    obtain ⟨less, rfl⟩ := Nat.exists_eq_add_one_of_ne_zero (Nat.ne_zero_of_lt hfuel)
    have hvalue := hvalues field List.mem_cons_self
    rw [writePrettyFields_cons] at hfuel ⊢
    obtain ⟨tail, content, htext, hstring, hkey, hread⟩ := readField_write
      (hnames field List.mem_cons_self) hvalue (delimited_comma _) (Nat.le_of_lt_succ hfuel)
    have hfield := length_writeField field depth (',' :: newLine depth (writeField next depth
      (writePrettyFields (fields.map plainField) depth last)))
    have hlonger := hvalue.longer depth (',' :: newLine depth (writeField next depth
      (writePrettyFields (fields.map plainField) depth last)))
    have hline := length_newLine depth (writeField next depth
      (writePrettyFields (fields.map plainField) depth last))
    rw [List.length_cons] at hlonger
    have hrest : readFields less (plainField field :: before) _ = _ :=
      ih (fun f hf => hnames f (List.mem_cons_of_mem _ hf))
        (fun f hf => hvalues f (List.mem_cons_of_mem _ hf)) (plainField field :: before) (by omega)
    simp only [htext, readFields, hstring, skipSpace_cons (c := ':') rfl, hread, hkey,
      skipSpace_cons (c := ',') rfl, skipSpace_newLine, skipSpace_writeField, hrest,
      List.reverse_cons, List.append_assoc, List.singleton_append, List.map_cons]

/-- A record is read as it was written, field by field. -/
theorem Reads.record (hnames : ∀ field ∈ fields, Spelled field.1)
    (h : ∀ field ∈ fields, Reads field.2) : Reads (.record fields) := by
  cases fields with
  | nil => exact .word '{' ['}'] (fun _ _ => rfl) rfl (by decide) fun _ _ => rfl
  | cons field fields =>
    refine .of_step (fun _ _ => ⟨'{', _, rfl, rfl, by decide⟩) (fun depth rest => ?_)
      fun fuel depth rest _ hfuel => ?_
    all_goals
      have hopen := length_newLine (depth + 1) (writeField field (depth + 1)
        (writePrettyFields (fields.map plainField) (depth + 1) (newLine depth ('}' :: rest))))
    · have hfield := length_writeField field (depth + 1)
        (writePrettyFields (fields.map plainField) (depth + 1) (newLine depth ('}' :: rest)))
      have hlonger := (h field List.mem_cons_self).longer (depth + 1)
        (writePrettyFields (fields.map plainField) (depth + 1) (newLine depth ('}' :: rest)))
      have hothers := length_writePrettyFields (fun f hf => h f (List.mem_cons_of_mem _ hf))
        (depth + 1) (newLine depth ('}' :: rest))
      have hclose := length_newLine depth ('}' :: rest)
      rw [List.length_cons] at hclose
      rw [writePretty_record, List.length_cons]
      omega
    · rw [writePretty_record, List.length_cons] at hfuel
      have hread : readFields fuel [] _ = _ :=
        readFields_write (closes_newLine rfl depth rest) hnames h (depth + 1) [] (by omega)
      rw [writePretty_record, readValue, skipSpace_newLine, skipSpace_writeField]
      exact hread

end Fields

/-! ## Documents -/

theorem Canonical.reads {v : Json} (h : v.Canonical) : v.Reads := by
  induction h with
  | null => exact .null
  | bool value => exact .bool value
  | number h => exact .number h
  | string text => exact .string text
  | array _ ih => exact .array ih
  | record hnames _ ih => exact .record hnames ih

/-- A document is read as it was written. -/
theorem parse?_pretty {v : Json} (h : v.Canonical) : parse? v.pretty = some v := by
  have hread := h.reads.reads ((writePretty v 0 []).length + 1) 0 [] (by simp [Delimited])
    (Nat.lt_succ_self _)
  rw [parse?, pretty, String.toList_ofList, parseChars?, h.reads.skipSpace_write, hread]
  rfl

end LogAnomaly.Json
