import LogAnomaly.Proofs.Json.Records
import LogAnomaly.Uuid

/-!
# UUIDs that read back

* `Uuid.ofHyphenated?_join`: the digits between the hyphens;
* `Uuid.parse?_write`: a UUID is read as it was written.
-/

namespace LogAnomaly.Uuid

theorem digit?_digitChar : ∀ d : Fin 16, digit? (Nat.digitChar d.val) = some d := by decide

/-- The digits of a UUID, as they are written. -/
def hexDigits (u : Uuid) : List Char := u.digits.toList.map fun d => Nat.digitChar d.val

theorem ofDigits?_hexDigits (u : Uuid) : ofDigits? u.hexDigits = some u := by
  have hread : u.hexDigits.mapM digit? = some (u.digits.toList.map id) :=
    Json.mapM_map fun d _ => digit?_digitChar d
  rw [List.map_id] at hread
  have hsize : u.digits.toList.toArray.size = 32 := by simp
  simp only [ofDigits?, hread, Option.bind_eq_bind, Option.bind_some, dif_pos hsize]
  exact congrArg (some ∘ Uuid.mk) (Vector.toList_inj.1 rfl)

/-- What stands between the hyphens. -/
theorem ofHyphenated?_join {a b c d : List Char} (ha : a.length = 8) (hb : b.length = 4)
    (hc : c.length = 4) (hd : d.length = 4) (e : List Char) :
    ofHyphenated? (a ++ '-' :: b ++ '-' :: c ++ '-' :: d ++ '-' :: e) =
      ofDigits? (a ++ (b ++ (c ++ (d ++ e)))) := by
  simp (disch := omega) [ofHyphenated?, List.drop_append, ha, hb, hc, hd,
    List.drop_of_length_le]

theorem take_drop_append (s : List Char) (start count : Nat) :
    (s.drop start).take count ++ s.drop (start + count) = s.drop start := by
  rw [← List.drop_drop, List.take_append_drop]

/-- A UUID is read as it was written. -/
theorem parse?_write (u : Uuid) : parse? u.write = some u := by
  have hjoin : ofHyphenated? u.text = ofDigits? _ :=
    ofHyphenated?_join (by simp) (by simp) (by simp) (by simp) _
  rw [take_drop_append, take_drop_append, take_drop_append, List.take_append_drop] at hjoin
  have htext : u.text.length = 36 := by simp [text]
  rw [parse?, write, String.toList_ofList]
  simp only [htext]
  exact hjoin.trans u.ofDigits?_hexDigits

end LogAnomaly.Uuid
