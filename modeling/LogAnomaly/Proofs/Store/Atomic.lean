import LogAnomaly.Proofs.Store.Lawful

/-!
# Stores that are not changed by failures

`AtomicStore` adds to the laws of a store that an operation which fails changes nothing, neither
the clusters nor the lock: after it, and after a transaction that is dropped, the store is the very
one from before. Stores in memory are atomic, also those that fail on demand.
-/

namespace LogAnomaly

open ClusterStore LawfulStore

/-- A store that failures leave as it was. -/
class AtomicStore (σ : Type) [ClusterStore σ] [LawfulStore σ] where
  /-- Nobody holds the lock. -/
  Free : σ → Prop
  /-- A transaction is open that began with the first store; the second one is that of now. -/
  Began : σ → Txn σ → σ → Prop
  acquire_began {cs : List TextCluster} {ms : Nat} {txn : Txn σ} {s s' : σ} :
    Holds cs s → acquire ms s = (.ok txn, s') → Free s ∧ Began s txn s'
  acquire_failed {cs : List TextCluster} {ms : Nat} {e : StoreFault} {s s' : σ} :
    Holds cs s → acquire ms s = (.error e, s') → s' = s
  insert_began {component text : String} {day : Day} {id : Nat} {txn txn' : Txn σ} {s s' t : σ} :
    Began s txn s' → txnInsert component text day txn s' = (.ok (id, txn'), t) → Began s txn' t
  insert_failed {component text : String} {day : Day} {e : StoreFault} {txn : Txn σ}
    {s s' t : σ} :
    Began s txn s' → txnInsert component text day txn s' = (.error e, t) → Began s txn t
  commit_failed {e : StoreFault} {txn : Txn σ} {s s' t : σ} :
    Began s txn s' → commit txn s' = (.error e, t) → t = s
  rollback_eq {txn : Txn σ} {s s' : σ} : Began s txn s' → rollback txn s' = s
  /-- A transaction that only reads changes nothing either. -/
  commit_unchanged {cs : List TextCluster} {ms : Nat} {txn : Txn σ} {s s' t : σ} :
    Holds cs s → acquire ms s = (.ok txn, s') → commit txn s' = (.ok (), t) → t = s

/-! ## Waiting -/

namespace Backoff

/-- Whoever waits for a lock that stays taken never gets it. -/
theorem acquireFrom_busy {α : Type} (timeout : Nat) (extra : Nat → Nat) (index waited pause : Nat)
    (lock : α) :
    (acquireFrom timeout (fun _ => (.busy : Attempt α)) extra index waited pause).result ≠
      .ok lock := by
  fun_induction acquireFrom timeout (fun _ => (.busy : Attempt α)) extra index waited pause with
  | case1 => contradiction
  | case2 | case3 => simp
  | case4 index waited pause hbusy asked hasked later ih => exact ih

/-- Nobody gets a lock that an attempt does not get. -/
theorem acquireNow_eq_ok {α : Type} {ms : Nat} {found : Attempt α} {lock : α}
    (h : acquireNow ms found = .ok lock) : found = .acquired lock := by
  unfold acquireNow acquire at h
  cases found with
  | acquired l =>
    rw [acquireFrom] at h
    rw [Except.ok.inj h]
  | busy => exact absurd h (acquireFrom_busy _ _ _ _ _ lock)
  | failed e =>
    rw [acquireFrom] at h
    cases h

end Backoff

/-! ## Stores in memory -/

namespace MemoryStore

theorem acquire_eq_ok {ms : Nat} {staged : List TextCluster} {s s' : MemoryStore}
    (h : s.acquire ms = (.ok staged, s')) :
    s.lock = .free ∧ staged = [] ∧ s' = { s with lock := .held } := by
  unfold acquire at h
  split at h
  · rename_i hfound
    have hattempt := Backoff.acquireNow_eq_ok hfound
    cases h
    refine ⟨?_, rfl, rfl⟩
    unfold attempt at hattempt
    split at hattempt
    · assumption
    · cases hattempt
    · cases hattempt
  · cases h

/-- Freeing a lock that was free before it was taken. -/
theorem rollback_held {s : MemoryStore} (h : s.lock = .free) :
    ({ s with lock := .held } : MemoryStore).rollback = s := by
  rw [rollback, ← h]

instance atomic : AtomicStore MemoryStore where
  Free s := s.lock = .free
  Began s _ s' := s.lock = .free ∧ s' = { s with lock := .held }
  acquire_began _ ha := by
    obtain ⟨hfree, -, rfl⟩ := acquire_eq_ok ha
    exact ⟨hfree, hfree, rfl⟩
  acquire_failed {cs ms e s s'} _ ha := by
    rcases acquire_cases ms s with ⟨t, he, -⟩ | ⟨e, he⟩ <;> cases he.symm.trans ha
    rfl
  insert_began h hins := by
    cases hins
    exact h
  insert_failed _ hins := by cases hins
  commit_failed _ hc := by cases hc
  rollback_eq h := by
    obtain ⟨hfree, rfl⟩ := h
    exact rollback_held hfree
  commit_unchanged {cs ms txn s s' t} _ ha hc := by
    obtain ⟨hfree, rfl, rfl⟩ := acquire_eq_ok ha
    cases hc
    rw [MemoryStore.commit, List.append_nil, ← hfree]

end MemoryStore

/-! ## Stores that fail on demand -/

namespace UnreliableStore

theorem acquire_eq_ok {ms : Nat} {txn : Txn UnreliableStore} {s s' : UnreliableStore}
    (h : acquire ms s = (.ok txn, s')) :
    s.inner.lock = .free ∧ txn = [] ∧ s' = { s with inner := { s.inner with lock := .held } } := by
  rcases onInner_cases h with ⟨he, -⟩ | ⟨inner, hrun, rfl⟩
  · cases he
  · obtain ⟨hfree, htxn, rfl⟩ := MemoryStore.acquire_eq_ok hrun
    exact ⟨hfree, htxn, rfl⟩

instance atomic : AtomicStore UnreliableStore where
  Free s := s.inner.lock = .free
  Began s _ s' := s.inner.lock = .free ∧ s.forcedId = none ∧
    s' = { s with inner := { s.inner with lock := .held } }
  acquire_began hs ha := by
    obtain ⟨hfree, -, rfl⟩ := acquire_eq_ok ha
    exact ⟨hfree, hfree, hs.2, rfl⟩
  acquire_failed {cs ms e s s'} hs ha := by
    rcases onInner_cases ha with ⟨-, rfl⟩ | ⟨inner, hrun, rfl⟩
    · rfl
    · obtain rfl := MemoryStore.atomic.acquire_failed hs.1 hrun
      rfl
  insert_began {component text day id txn txn' s s' t} h hins := by
    obtain ⟨hfree, hforced, rfl⟩ := h
    replace hins : txnInsert component text day txn _ = (.ok (id, txn'), t) := hins
    unfold txnInsert at hins
    split at hins
    · cases hins
    · cases hins
      exact ⟨hfree, hforced, by rw [hforced]⟩
  insert_failed {component text day e txn s s' t} h hins := by
    replace hins : txnInsert component text day txn s' = (.error e, t) := hins
    unfold txnInsert at hins
    split at hins
    · cases hins
      exact h
    · cases hins
  commit_failed {e txn s s' t} h hc := by
    obtain ⟨hfree, -, rfl⟩ := h
    replace hc : commit txn _ = (.error e, t) := hc
    unfold commit at hc
    split at hc
    · cases hc
      exact congrArg (fun inner => { s with inner }) (MemoryStore.rollback_held hfree)
    · cases hc
  rollback_eq {txn s s'} h := by
    obtain ⟨hfree, -, rfl⟩ := h
    exact congrArg (fun inner => { s with inner }) (MemoryStore.rollback_held hfree)
  commit_unchanged {cs ms txn s s' t} hs ha hc := by
    obtain ⟨hfree, rfl, rfl⟩ := acquire_eq_ok ha
    replace hc : commit [] _ = (.ok (), t) := hc
    unfold commit at hc
    split at hc
    · cases hc
    · cases hc
      rw [MemoryStore.commit, List.append_nil, ← hfree]

end UnreliableStore

end LogAnomaly
