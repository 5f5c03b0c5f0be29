import LogAnomaly.Store.Backoff
import Mathlib.Algebra.Order.Ring.Nat

/-!
# Waiting up to a deadline

* `pauseAfter`, `attemptTime`, `askedAfter`: the pauses that doubling gives, when each attempt is
  made, and what is asked for of the pauses before the deadline;
* `mul_firstPause_le_attemptTime`: no sleep that ends before the deadline is shorter than the first
  pause, so the time that has passed bounds the number of attempts;
* `Ends`: the course of waiting, attempt by attempt; `ends_acquireFrom`: waiting takes this course;
* `waits_until_deadline`: waiting ends, and not before the deadline as long as the lock is taken.
-/

namespace LogAnomaly.Backoff

/-! ## The schedule -/

/-- The pause after the `i`-th attempt if the deadline is far: 5 ms first, then twice as long each
time, up to 250 ms. -/
def pauseAfter (i : Nat) : Nat := min (2 ^ i * firstPause) longestPause

theorem pauseAfter_zero : pauseAfter 0 = firstPause := by decide

theorem longerPause_pauseAfter (i : Nat) : longerPause (pauseAfter i) = pauseAfter (i + 1) := by
  have hdouble : 2 ^ (i + 1) * firstPause = 2 * (2 ^ i * firstPause) := by
    rw [Nat.pow_succ', Nat.mul_assoc]
  unfold longerPause pauseAfter
  omega

example : (List.range 8).map pauseAfter =
    [5, 10, 20, 40, 80, 160, 250, 250].map (1000000 * ·) := by decide

theorem firstPause_le_pauseAfter (i : Nat) : firstPause ≤ pauseAfter i :=
  le_min (Nat.le_mul_of_pos_left _ (Nat.two_pow_pos i)) (by decide)

theorem pauseAfter_pos (i : Nat) : 0 < pauseAfter i :=
  (by decide : 0 < firstPause).trans_le (firstPause_le_pauseAfter i)

section Schedule

variable (timeout : Nat) (extra : Nat → Nat)

/-- When the `i`-th attempt is made, if the lock is taken at all attempts before it. Each sleep may
take longer than asked for. -/
def attemptTime : Nat → Nat
  | 0 => 0
  | i + 1 => attemptTime i + min (pauseAfter i) (timeout - attemptTime i) + extra i

/-- The pause that is asked for after the `i`-th attempt. -/
def askedAfter (i : Nat) : Nat := min (pauseAfter i) (timeout - attemptTime timeout extra i)

theorem attemptTime_succ (i : Nat) : attemptTime timeout extra (i + 1) =
    attemptTime timeout extra i + askedAfter timeout extra i + extra i := rfl

theorem attemptTime_le_succ (i : Nat) :
    attemptTime timeout extra i ≤ attemptTime timeout extra (i + 1) := by
  rw [attemptTime_succ]
  omega

variable {timeout extra} {i : Nat}

theorem askedAfter_bounds (h : attemptTime timeout extra i < timeout) :
    0 < askedAfter timeout extra i ∧ askedAfter timeout extra i ≤ longestPause ∧
      attemptTime timeout extra i + askedAfter timeout extra i ≤ timeout := by
  have hpause := pauseAfter_pos i
  have hlongest : pauseAfter i ≤ longestPause := min_le_right _ _
  unfold askedAfter
  omega

/-- Before the deadline every sleep has taken the first pause at least: a shorter one is asked for
only if it ends at the deadline. -/
theorem mul_firstPause_le_attemptTime (h : attemptTime timeout extra i < timeout) :
    i * firstPause ≤ attemptTime timeout extra i := by
  induction i with
  | zero => simp
  | succ i ih =>
    have hbefore := attemptTime_le_succ timeout extra i
    have hpassed := ih (by omega)
    have hpause := firstPause_le_pauseAfter i
    rw [Nat.succ_mul]
    rw [attemptTime_succ, askedAfter] at h ⊢
    omega

end Schedule

/-! ## The course of waiting -/

/-- How waiting ends with an attempt at the given time: with the lock or the failure that it finds,
or because the time is up. -/
def Attempt.Decides {α : Type} (timeout time : Nat) (result : Except StoreFault α) :
    Attempt α → Prop
  | .acquired lock => result = .ok lock
  | .failed error => result = .error error
  | .busy => timeout ≤ time ∧ result = .error (.lockTimeout (time / 1000000 % wordCount))

theorem Attempt.Decides.unique {α : Type} {timeout time : Nat} {found : Attempt α}
    {result result' : Except StoreFault α} (h : found.Decides timeout time result)
    (h' : found.Decides timeout time result') : result' = result := by
  cases found with
  | acquired lock | failed error => exact Eq.trans h' (Eq.symm h)
  | busy => exact h'.2.trans h.2.symm

section Course

variable {α : Type} (timeout : Nat) (attempt : Nat → Attempt α) (extra : Nat → Nat)

/-- How waiting ends from the `i`-th attempt on: with this attempt, or after a sleep with a later
one. The waiter sleeps if it finds the lock taken before the deadline. -/
inductive Ends : Nat → Outcome α → Prop where
  | now {i : Nat} {result : Except StoreFault α} :
      (attempt i).Decides timeout (attemptTime timeout extra i) result → Ends i ⟨result, []⟩
  | slept {i : Nat} {later : Outcome α} : attempt i = .busy →
      attemptTime timeout extra i < timeout → Ends (i + 1) later →
      Ends i ⟨later.result, askedAfter timeout extra i :: later.pauses⟩

/-- Waiting takes this course: it never gives up for want of a pause. -/
theorem ends_acquireFrom (i : Nat) : Ends timeout attempt extra i
    (acquireFrom timeout attempt extra i (attemptTime timeout extra i) (pauseAfter i)) := by
  have hpos := pauseAfter_pos i
  generalize htime : attemptTime timeout extra i = waited
  generalize hpause : pauseAfter i = pause at *
  fun_induction acquireFrom timeout attempt extra i waited pause with
  | case1 i waited pause lock hfound | case2 i waited pause error hfound =>
    refine .now ?_
    rw [hfound]
    rfl
  | case3 i waited pause hfound hnone =>
    subst htime
    unfold pause? at hnone
    split at hnone
    · rename_i hup
      refine .now ?_
      rw [hfound]
      exact ⟨hup.resolve_right (by omega), rfl⟩
    · cases hnone
  | case4 i waited pause hfound asked hasked later ih =>
    subst htime hpause
    unfold pause? at hasked
    split at hasked
    · cases hasked
    · rename_i hup
      obtain rfl := Option.some.inj hasked
      have hlonger := longerPause_pauseAfter i
      have hnext := pauseAfter_pos (i + 1)
      rw [← hlonger] at hnext
      exact .slept hfound (by omega) (ih rfl hlonger.symm hnext)

end Course

section Ended

variable {α : Type} {timeout : Nat} {attempt : Nat → Attempt α} {extra : Nat → Nat} {i : Nat}
  {o : Outcome α}

/-- One attempt is made before each pause and one after the last; the outcome follows from what
these attempts find. -/
theorem Ends.unique {other : Nat → Attempt α} {o' : Outcome α}
    (h : Ends timeout attempt extra i o) (h' : Ends timeout other extra i o')
    (hsame : ∀ j, i ≤ j → j ≤ i + o.pauses.length → other j = attempt j) : o' = o := by
  have hhere := hsame i le_rfl (Nat.le_add_right ..)
  induction h generalizing o' with
  | @now i result hdecides =>
    cases h' with
    | now hother =>
      rw [hhere] at hother
      rw [hdecides.unique hother]
    | slept hbusy htime _ =>
      rw [← hhere, hbusy] at hdecides
      exact absurd hdecides.1 (by omega)
  | @slept i later hbusy htime _ ih =>
    rw [← hhere] at hbusy
    cases h' with
    | now hother =>
      rw [hbusy] at hother
      exact absurd hother.1 (by omega)
    | slept _ _ hlater =>
      have hnext (j : Nat) (hj : i + 1 ≤ j) (hle : j ≤ i + 1 + later.pauses.length) :
          other j = attempt j := by
        refine hsame j (by omega) ?_
        rw [List.length_cons]
        omega
      rw [ih hlater hnext (hnext (i + 1) le_rfl (Nat.le_add_right ..))]

theorem Ends.pauses_eq (h : Ends timeout attempt extra i o) :
    o.pauses = (List.range' i o.pauses.length).map (askedAfter timeout extra) := by
  induction h with
  | now => rfl
  | slept _ _ _ ih => rw [List.length_cons, List.range'_succ, List.map_cons, ← ih]

/-- As long as there are pauses, the lock is taken and the deadline is not reached. -/
theorem Ends.busy (h : Ends timeout attempt extra i o) {j : Nat} (hj : i ≤ j)
    (hlt : j < i + o.pauses.length) :
    attempt j = .busy ∧ attemptTime timeout extra j < timeout := by
  induction h with
  | now =>
    rw [List.length_nil] at hlt
    omega
  | @slept i later hfound htime _ ih =>
    rw [List.length_cons] at hlt
    rcases hj.eq_or_lt with rfl | hlater
    · exact ⟨hfound, htime⟩
    · exact ih hlater (by omega)

/-- What the last attempt finds decides how waiting ends. -/
theorem Ends.decides (h : Ends timeout attempt extra i o) :
    (attempt (i + o.pauses.length)).Decides timeout
      (attemptTime timeout extra (i + o.pauses.length)) o.result := by
  induction h with
  | now hdecides => exact hdecides
  | @slept i later _ _ _ ih =>
    rwa [List.length_cons, Nat.add_comm later.pauses.length, ← Nat.add_assoc]

/-- The number of attempts is bounded, whatever they find. -/
theorem Ends.length_pauses (h : Ends timeout attempt extra 0 o) :
    o.pauses.length * firstPause < timeout + firstPause := by
  rcases Nat.eq_zero_or_pos o.pauses.length with hnone | hsome
  · rw [hnone, Nat.zero_mul]
    exact Nat.add_pos_right _ (by decide)
  · obtain ⟨-, htime⟩ := h.busy (j := o.pauses.length - 1) (Nat.zero_le _) (by omega)
    have hpassed := mul_firstPause_le_attemptTime htime
    rw [Nat.sub_one_mul] at hpassed
    omega

end Ended

/-- Waiting ends after finitely many attempts, and at least one: one before each pause and a last
one. The lock is taken at all of them but the last, and these are made before the deadline. After
each a positive pause is asked for: 5 ms, then twice as long each time, but never more than 250 ms
or than the time that is left. The last attempt decides: the lock or the failure that it finds is
what waiting ends with, and time is up only if it finds the lock taken at the deadline or later. No
attempt after it counts. -/
theorem waits_until_deadline {α : Type} (timeout : Nat) (attempt : Nat → Attempt α)
    (extra : Nat → Nat) :
    let outcome := acquire timeout attempt extra
    let last := outcome.pauses.length
    let time := attemptTime timeout extra
    let asked := askedAfter timeout extra
    last * firstPause < timeout + firstPause ∧
      outcome.pauses = (List.range last).map asked ∧
      (∀ i < last, attempt i = .busy ∧ time i < timeout ∧
        0 < asked i ∧ asked i ≤ longestPause ∧ time i + asked i ≤ timeout) ∧
      (attempt last).Decides timeout (time last) outcome.result ∧
      ∀ other : Nat → Attempt α, (∀ i ≤ last, other i = attempt i) →
        acquire timeout other extra = outcome := by
  intro outcome last time asked
  have hends (found : Nat → Attempt α) :
      Ends timeout found extra 0 (acquire timeout found extra) := by
    have hcourse := ends_acquireFrom timeout found extra 0
    rwa [pauseAfter_zero] at hcourse
  have hcourse : Ends timeout attempt extra 0 outcome := hends attempt
  have hlast : 0 + outcome.pauses.length = last := Nat.zero_add _
  refine ⟨hcourse.length_pauses, ?_, fun i hi => ?_, ?_, fun other hsame => ?_⟩
  · rw [List.range_eq_range']
    exact hcourse.pauses_eq
  · obtain ⟨hbusy, htime⟩ := hcourse.busy (Nat.zero_le i) (hlast ▸ hi)
    exact ⟨hbusy, htime, askedAfter_bounds htime⟩
  · rw [← hlast]
    exact hcourse.decides
  · exact hcourse.unique (hends other) fun j _ hj => hsame j (hlast ▸ hj)

/-- A lock that is taken until the deadline and free at it: the first sleep takes 1 ms longer than
asked for, and the second one ends at the deadline. -/
theorem waits_until_deadline_last :
    let attempt (i : Nat) : Attempt Unit := if i < 2 then .busy else .acquired ()
    let extra (i : Nat) : Nat := if i = 0 then 1000000 else 0
    attemptTime 12000000 extra 2 = 12000000 ∧
      acquire 12000000 attempt extra = ⟨.ok (), [5000000, 6000000]⟩ := by
  intro attempt extra
  obtain ⟨hbound, hpauses, hbusy, hdecides, -⟩ := waits_until_deadline 12000000 attempt extra
  generalize acquire 12000000 attempt extra = outcome at *
  have hle : outcome.pauses.length < 4 := by
    simp only [firstPause] at hbound
    omega
  have htimes : attemptTime 12000000 extra 0 = 0 ∧ attemptTime 12000000 extra 1 = 6000000 ∧
      attemptTime 12000000 extra 2 = 12000000 := by decide
  refine ⟨htimes.2.2, ?_⟩
  obtain hlast | hlast | hlast | hlast : outcome.pauses.length = 0 ∨ outcome.pauses.length = 1 ∨
      outcome.pauses.length = 2 ∨ outcome.pauses.length = 3 := by omega
  -- the first two attempts come too early to be the last one, the third is not followed by another
  · rw [hlast, htimes.1] at hdecides
    have hlate : 12000000 ≤ 0 := And.left hdecides
    omega
  · rw [hlast, htimes.2.1] at hdecides
    have hlate : 12000000 ≤ 6000000 := And.left hdecides
    omega
  · rw [hlast] at hpauses hdecides
    have hresult : outcome.result = .ok () := hdecides
    have hasked : outcome.pauses = [5000000, 6000000] := hpauses.trans (by decide)
    cases outcome with
    | mk result pauses =>
      subst hresult hasked
      rfl
  · obtain ⟨htaken, -⟩ := hbusy 2 (by omega)
    cases htaken

end LogAnomaly.Backoff
