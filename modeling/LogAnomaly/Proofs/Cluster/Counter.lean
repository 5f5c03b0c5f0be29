import LogAnomaly.Cluster.Basic
import Mathlib.Data.Nat.ModEq

/-!
# Counters of ids

* `IdCounter.idAt`: the ids that a counter gives one after the other;
* `IdCounter.idAt_ne`: no id is given again before all of them have been given;
* `IdCounter.Lasts`: a counter gives ascending ids before it starts over, and `giveId_of_lasts`:
  until then to give an id is to reserve the next one.
-/

namespace LogAnomaly.IdCounter

/-! ## The ids that a counter gives one after the other -/

/-- The counter after a number of new ids. -/
def after (counter : IdCounter) : Nat → IdCounter
  | 0 => counter
  | n + 1 => (counter.after n).giveId.2

/-- The id that follows a number of new ids. -/
def idAt (counter : IdCounter) (n : Nat) : Nat := (counter.after n).next

/-- The counter does not repeat an id among so many new ones: they are no more than all of its ids.
A counter without a limit always has room. -/
def HasRoom (counter : IdCounter) (n : Nat) : Prop :=
  ∀ limit, counter.limit = some limit → counter.next < limit ∧ n ≤ limit

variable {counter : IdCounter}

theorem HasRoom.mono {m n : Nat} (h : counter.HasRoom n) (hle : m ≤ n) : counter.HasRoom m :=
  fun limit hlimit =>
    let ⟨hlt, hn⟩ := h limit hlimit
    ⟨hlt, Nat.le_trans hle hn⟩

theorem after_add (m n : Nat) : counter.after (m + n) = (counter.after m).after n := by
  induction n with
  | zero => rfl
  | succ n ih => rw [← Nat.add_assoc, after, after, ih]

theorem after_limit (n : Nat) : (counter.after n).limit = counter.limit := by
  induction n with
  | zero => rfl
  | succ n ih => exact ih

theorem idAt_of_unlimited (h : counter.limit = none) (n : Nat) :
    counter.idAt n = counter.next + n := by
  induction n with
  | zero => rfl
  | succ n ih =>
    have hstep : counter.idAt (n + 1) = counter.idAt n + 1 := by
      simp [idAt, after, giveId, after_limit, h]
    rw [hstep, ih, Nat.add_assoc]

theorem idAt_of_limit {limit : Nat} (h : counter.limit = some limit) (hlt : counter.next < limit)
    (n : Nat) : counter.idAt n = (counter.next + n) % limit := by
  induction n with
  | zero => exact (Nat.mod_eq_of_lt hlt).symm
  | succ n ih =>
    have hstep : counter.idAt (n + 1) = (counter.idAt n + 1) % limit := by
      simp [idAt, after, giveId, after_limit, h]
    rw [hstep, ih, Nat.mod_add_mod, Nat.add_assoc]

/-- A counter does not repeat an id before it has given all of them. -/
theorem idAt_ne {j k n : Nat} (h : counter.HasRoom n) (hjk : j < k) (hk : k < n) :
    counter.idAt j ≠ counter.idAt k := by
  cases hlimit : counter.limit with
  | none =>
    rw [idAt_of_unlimited hlimit, idAt_of_unlimited hlimit]
    omega
  | some limit =>
    obtain ⟨hlt, hn⟩ := h limit hlimit
    rw [idAt_of_limit hlimit hlt, idAt_of_limit hlimit hlt]
    intro hmod
    have : j = k := (Nat.ModEq.add_left_cancel' _ hmod).eq_of_lt_of_lt (by omega) (by omega)
    omega

/-! ## Counters that do not start over -/

/-- The counter does not start over with the next `n` ids. A counter without a limit never does. -/
def Lasts (counter : IdCounter) (n : Nat) : Prop :=
  ∀ limit, counter.limit = some limit → counter.next + n < limit

/-- A counter that begins with the first id lasts until all of its ids are given. -/
theorem HasRoom.lasts {n : Nat} (h : counter.HasRoom (n + 1)) (hnext : counter.next = 0) :
    counter.Lasts n := fun limit hlimit => by
  have := (h limit hlimit).2
  omega

theorem Lasts.mono {m n : Nat} (h : counter.Lasts n) (hle : m ≤ n) : counter.Lasts m :=
  fun limit hlimit => Nat.lt_of_le_of_lt (Nat.add_le_add_left hle _) (h limit hlimit)

theorem next_reserve_next (counter : IdCounter) :
    (counter.reserve counter.next).next = counter.next + 1 := Nat.max_eq_right (Nat.le_succ _)

/-- To give an id is to reserve the next one. -/
theorem giveId_of_lasts {n : Nat} (h : counter.Lasts (n + 1)) :
    counter.giveId = (counter.next, counter.reserve counter.next) := by
  rw [giveId, reserve, Nat.max_eq_right (Nat.le_succ counter.next)]
  cases hlimit : counter.limit with
  | none => rfl
  | some limit =>
    have hlt := h limit hlimit
    dsimp only
    rw [Nat.mod_eq_of_lt (by omega)]

theorem Lasts.reserve {n : Nat} (h : counter.Lasts (n + 1)) :
    (counter.reserve counter.next).Lasts n := fun limit hlimit => by
  have := h limit hlimit
  rw [next_reserve_next]
  omega

end LogAnomaly.IdCounter
