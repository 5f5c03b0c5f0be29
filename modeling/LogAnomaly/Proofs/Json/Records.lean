import LogAnomaly.Json.Decode
import LogAnomaly.Proofs.Json.Values

/-!
# Records that read back

What the writers of values make has the form of a document (`Canonical.ofNat`, `Canonical.ofList`), and
the readers of values undo them (`nat?_ofNat`, `list?_ofList`, `record?_record`). What they read is
never anything else than what was written (`nat?_ofNat_eq_some`, `list?_ofList_eq_some`).
-/

namespace LogAnomaly.Json

open LogAnomaly.Text

/-! ## Numbers -/

theorem Canonical.ofNat (n : Nat) : (Json.ofNat n).Canonical :=
  .number {
    whole_ne_nil := Nat.toDigits_ne_nil
    whole_digits := fun _ => isAsciiDigit_of_mem_toDigits
    zero_alone := fun _ => toDigits_zero_cons
    fraction_digits := by simp }

theorem nat?_ofNat_eq (n : Nat) : (Json.ofNat n).nat? = if n ≤ maxWord then some n else none := by
  simp [Json.nat?, Json.ofNat, natUpTo?, Numeral.nat?, digitsValue_toDigits]

/-- A word of 64 bits is read as it was written. -/
theorem nat?_ofNat {n : Nat} (h : n ≤ maxWord) : (Json.ofNat n).nat? = some n := by
  rw [nat?_ofNat_eq, if_pos h]

theorem nat?_ofNat_eq_some {n m : Nat} (h : (Json.ofNat n).nat? = some m) : m = n := by
  rw [nat?_ofNat_eq] at h
  split at h
  · exact (Option.some.inj h).symm
  · cases h

theorem ofNat_injective {n m : Nat} (h : Json.ofNat n = Json.ofNat m) : n = m := by
  simp only [Json.ofNat, Json.number.injEq, Numeral.mk.injEq] at h
  rw [← digitsValue_toDigits n, h.2.1, digitsValue_toDigits]

/-! ## Lists -/

/-- Elements that are read one by one. -/
theorem mapM_map {α β γ : Type} {write : α → β} {read : β → Option γ} {value : α → γ}
    {items : List α} (h : ∀ a ∈ items, read (write a) = some (value a)) :
    (items.map write).mapM read = some (items.map value) := by
  induction items with
  | nil => rfl
  | cons a items ih =>
    rw [List.map_cons, List.mapM_cons, h a List.mem_cons_self,
      ih fun b hb => h b (List.mem_cons_of_mem _ hb)]
    rfl

section Lists

variable {α : Type} {write : α → Json} {items : List α}

theorem Canonical.ofList (h : ∀ a ∈ items, (write a).Canonical) :
    (Json.ofList write items).Canonical :=
  .array fun _ hitem => by
    obtain ⟨a, ha, rfl⟩ := List.mem_map.1 hitem
    exact h a ha

/-- A list is read as it was written, if each element is. -/
theorem list?_ofList {read : Json → Option α} (h : ∀ a ∈ items, read (write a) = some a) :
    (Json.ofList write items).list? read = some items := by
  have hitems : (items.map write).mapM read = some (items.map id) := mapM_map h
  rwa [List.map_id] at hitems

theorem list?_ofList_eq_some {read : Json → Option α} {found : List α}
    (h : ∀ a b, read (write a) = some b → b = a)
    (hread : (Json.ofList write items).list? read = some found) : found = items := by
  replace hread : (items.map write).mapM read = some found := hread
  induction items generalizing found with
  | nil => exact (Option.some.inj hread).symm
  | cons a items ih =>
    simp only [List.map_cons, List.mapM_cons, Option.bind_eq_bind, Option.bind_eq_some_iff] at hread
    obtain ⟨b, hb, rest, hrest, hfound⟩ := hread
    rw [h a b hb, ih hrest] at hfound
    exact (Option.some.inj hfound).symm

end Lists

/-! ## Fields -/

section Fields

variable {fields : List (String × Json)}

/-- A field is the only one of its name. -/
theorem filter_plainField (hdistinct : (fields.map (·.1)).Nodup) {field : String × Json}
    (h : field ∈ fields) :
    (fields.map plainField).filter (·.1.name? == some field.1) = [plainField field] := by
  induction fields with
  | nil => cases h
  | cons f fields ih =>
    rw [List.map_cons, List.nodup_cons] at hdistinct
    have hhead : ((plainField f).1.name? == some field.1) = (f.1 == field.1) := by
      simp [plainField, Key.name?]
    rw [List.map_cons, List.filter_cons, hhead]
    rcases List.mem_cons.1 h with rfl | h
    · have hothers : (fields.map plainField).filter (·.1.name? == some field.1) = [] := by
        simp only [List.filter_eq_nil_iff, List.mem_map, forall_exists_index, and_imp,
          forall_apply_eq_imp_iff₂]
        intro g hg
        have hne : g.1 ≠ field.1 := fun heq => hdistinct.1 (heq ▸ List.mem_map_of_mem hg)
        simp [plainField, Key.name?, hne]
      simp [hothers]
    · have hne : f.1 ≠ field.1 := fun heq => hdistinct.1 (heq ▸ List.mem_map_of_mem h)
      simp [hne, ih hdistinct.2 h]

theorem field?_record (hdistinct : (fields.map (·.1)).Nodup) {field : String × Json}
    (h : field ∈ fields) (absence : Absence) :
    field? (fields.map plainField) field.1 absence = some (some field.2) := by
  unfold field?
  rw [filter_plainField hdistinct h]
  rfl

/-- The fields of a record are found by their names. -/
theorem record?_record (fields : List (String × Json)) (hdistinct : (fields.map (·.1)).Nodup) :
    (record fields).record? (fields.map fun field => (field.1, .refused)) =
      some (fields.map fun field => some field.2) := by
  have hnames : (fields.map plainField).all (fun field => field.1.name?.isSome) = true := by
    simp [plainField, Key.name?]
  have hfields : (fields.map fun field => (field.1, Absence.refused)).mapM
      (fun field => field? (fields.map plainField) field.1 field.2) =
        some (fields.map fun field => some field.2) :=
    mapM_map fun field h => field?_record hdistinct h .refused
  show (if (fields.map plainField).all (fun field => field.1.name?.isSome) then _ else none) = _
  rw [if_pos hnames]
  exact hfields

end Fields

end LogAnomaly.Json
