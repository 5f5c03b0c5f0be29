import LogAnomaly.Store.Basic

/-!
# Waiting for a lock

* `Backoff.pause?`: the pause after an attempt that found the lock taken, none once the time is
  up; no pause is longer than the time that is left (`Backoff.pause?_bounds`);
* `Backoff.acquire`: attempts with growing pauses between them, until the lock is free, an attempt
  fails or the time is up.

Times are in nanoseconds, but the time that a waiter reports is a word of milliseconds. The clock
moves only while the waiter sleeps, for at least as long as it asked for.
-/

namespace LogAnomaly.Backoff

/-- What an attempt to take a lock finds. -/
inductive Attempt (α : Type) where
  | acquired (lock : α)
  | busy
  | failed (error : StoreFault)

/-- The first pause: 5 ms. -/
def firstPause : Nat := 5000000

/-- The longest pause: 250 ms. -/
def longestPause : Nat := 250000000

/-- The pause that follows an attempt at the time `waited`, at most the time that is left; none
if no time is left or no pause is asked for. -/
def pause? (timeout waited pause : Nat) : Option Nat :=
  if timeout ≤ waited ∨ pause = 0 then none else some (min pause (timeout - waited))

theorem pause?_bounds {timeout waited pause asked : Nat}
    (h : pause? timeout waited pause = some asked) :
    0 < asked ∧ asked ≤ pause ∧ waited + asked ≤ timeout := by
  unfold pause? at h
  split at h
  · simp at h
  · obtain rfl := Option.some.inj h
    omega

/-- The pause to ask for next time. -/
def longerPause (pause : Nat) : Nat := min (2 * pause) longestPause

/-- How waiting ends, and the pauses that were asked for. -/
structure Outcome (α : Type) where
  result : Except StoreFault α
  pauses : List Nat

/-- Attempts from the `index`-th one on, at the time `waited`. `extra` tells how much longer than
asked for each sleep takes. -/
def acquireFrom {α : Type} (timeout : Nat) (attempt : Nat → Attempt α) (extra : Nat → Nat)
    (index waited pause : Nat) : Outcome α :=
  match attempt index with
  | .acquired lock => ⟨.ok lock, []⟩
  | .failed error => ⟨.error error, []⟩
  | .busy =>
    match h : pause? timeout waited pause with
    | none => ⟨.error (.lockTimeout (waited / 1000000 % wordCount)), []⟩
    | some asked =>
      let later := acquireFrom timeout attempt extra (index + 1) (waited + asked + extra index)
        (longerPause pause)
      { later with pauses := asked :: later.pauses }
termination_by timeout - waited
decreasing_by
  have := pause?_bounds h
  omega

/-- Attempts until the lock is free, an attempt fails or the time is up. -/
def acquire {α : Type} (timeout : Nat) (attempt : Nat → Attempt α) (extra : Nat → Nat) :
    Outcome α :=
  acquireFrom timeout attempt extra 0 0 firstPause

/-- Waiting for a lock that nobody changes meanwhile, with a timeout in milliseconds. -/
def acquireNow {α : Type} (timeoutMs : Nat) (found : Attempt α) : Except StoreFault α :=
  (acquire (1000000 * timeoutMs) (fun _ => found) (fun _ => 0)).result

end LogAnomaly.Backoff
