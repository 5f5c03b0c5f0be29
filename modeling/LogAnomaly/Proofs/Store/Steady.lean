import LogAnomaly.Proofs.Store.Lawful

/-!
# Stores that never fail

`SteadyStore` adds to the laws of a store that operations succeed as long as only one writer uses
it. A store is ready between two transactions, and it stays ready whatever the writer does, except
that each new cluster takes one of the ids that are left. Stores in memory are steady, also those
that fail on demand as long as nothing is asked to fail; their ids never run out.
-/

namespace LogAnomaly

open ClusterStore LawfulStore

/-- A store whose operations succeed for a writer that has it for itself. -/
class SteadyStore (σ : Type) [ClusterStore σ] [LawfulStore σ] where
  /-- Nobody holds the lock, nothing is wrong with the store, and there are ids for so many more
  clusters. -/
  Ready : Nat → σ → Prop
  /-- A transaction is open, nothing is wrong with the store, and there are ids for so many more
  clusters. -/
  Open : Nat → Txn σ → σ → Prop
  ready_of_le {m n : Nat} {s : σ} : m ≤ n → Ready n s → Ready m s
  loadAll_ready {n : Nat} {s : σ} : Ready n s → ∃ loaded, loadAll s = .ok loaded
  /-- A day is recorded for a cluster that is there. -/
  touch_ready {n : Nat} {cs cs' : List TextCluster} {id : Nat} {day : Day} {s : σ} :
    Ready n s → Holds cs s → touchFirst id day cs = some cs' →
      ∃ s', touch id day s = (.ok (), s') ∧ Ready n s'
  acquire_ready {n : Nat} {s : σ} (ms : Nat) :
    Ready n s → ∃ txn s', acquire ms s = (.ok txn, s') ∧ Open n txn s'
  txnMaxId_open {n : Nat} {txn : Txn σ} {s : σ} :
    Open n txn s → ∃ greatest, txnMaxId txn s = .ok greatest
  txnLoad_open {n : Nat} {txn : Txn σ} {s : σ} (component : String) (after : Option Nat) :
    Open n txn s → ∃ found, txnLoad component after txn s = .ok found
  txnInsert_open {n : Nat} {txn : Txn σ} {s : σ} (component text : String) (day : Day) :
    Open (n + 1) txn s → ∃ id txn' s', txnInsert component text day txn s = (.ok (id, txn'), s') ∧
      Open n txn' s'
  commit_open {n : Nat} {txn : Txn σ} {s : σ} :
    Open n txn s → ∃ s', commit txn s = (.ok (), s') ∧ Ready n s'

/-! ## Stores in memory -/

namespace MemoryStore

theorem acquire_free {s : MemoryStore} (h : s.lock = .free) (ms : Nat) :
    s.acquire ms = (.ok [], { s with lock := .held }) := by
  unfold MemoryStore.acquire attempt Backoff.acquireNow Backoff.acquire
  rw [h, Backoff.acquireFrom]

theorem touch_free {cs : List TextCluster} {id : Nat} {day : Day} {s : MemoryStore}
    (h : s.lock = .free) (ht : touchFirst id day s.clusters = some cs) :
    s.touch id day = (.ok (), { s with clusters := cs }) := by
  have hlock : s.lock ≠ .poisoned := by
    rw [h]
    decide
  rw [MemoryStore.touch, if_neg hlock, ht]

instance steady : SteadyStore MemoryStore where
  Ready _ s := s.lock = .free
  Open _ _ s := s.lock = .held
  ready_of_le _ h := h
  loadAll_ready {n s} h := by
    have hlock : s.lock ≠ .poisoned := by
      rw [h]
      decide
    exact ⟨_, if_neg hlock⟩
  touch_ready {n cs cs' id day s} h hs ht := by
    obtain rfl := hs
    exact ⟨_, touch_free h ht, h⟩
  acquire_ready ms h := ⟨_, _, acquire_free h ms, rfl⟩
  txnMaxId_open _ := ⟨_, rfl⟩
  txnLoad_open _ _ _ := ⟨_, rfl⟩
  txnInsert_open _ _ _ h := ⟨_, _, _, rfl, h⟩
  commit_open _ := ⟨_, rfl, rfl⟩

end MemoryStore

/-! ## Stores that fail on demand -/

namespace UnreliableStore

theorem fails_eq_false {s : UnreliableStore} (h : s.failing = []) (point : FaultPoint) :
    s.fails point = false := by
  rw [fails, h]
  rfl

/-- What nothing asks to fail is done by the store in memory. -/
theorem onInner_eq {α : Type} {point : FaultPoint}
    {run : MemoryStore → Except StoreFault α × MemoryStore} {r : Except StoreFault α}
    {inner : MemoryStore} {s : UnreliableStore} (h : s.failing = [])
    (hrun : run s.inner = (r, inner)) : onInner point run s = (r, { s with inner }) := by
  rw [onInner, fails_eq_false h, hrun]
  rfl

theorem readInner_eq {α : Type} {point : FaultPoint} {read : MemoryStore → Except StoreFault α}
    {s : UnreliableStore} (h : s.failing = []) : readInner point read s = read s.inner := by
  rw [readInner, fails_eq_false h]
  rfl

theorem txnInsert_eq {s : UnreliableStore} (h : s.failing = []) (component text : String)
    (day : Day) (staged : List TextCluster) :
    s.txnInsert component text day staged =
      (.ok (s.forcedId.getD (s.inner.txnInsert component text day staged).1,
        (s.inner.txnInsert component text day staged).2), { s with forcedId := none }) := by
  rw [txnInsert, fails_eq_false h]
  rfl

theorem commit_eq {s : UnreliableStore} (h : s.failing = []) (staged : List TextCluster) :
    s.commit staged = (.ok (), { s with inner := s.inner.commit staged }) := by
  rw [commit, fails_eq_false h]
  rfl

instance steady : SteadyStore UnreliableStore where
  Ready _ s := s.inner.lock = .free ∧ s.failing = []
  Open _ _ s := s.inner.lock = .held ∧ s.failing = []
  ready_of_le _ h := h
  loadAll_ready {n _} h :=
    let ⟨loaded, hloaded⟩ := MemoryStore.steady.loadAll_ready (n := n) h.1
    ⟨loaded, (readInner_eq h.2).trans hloaded⟩
  touch_ready {n _ _ _ _ _} h hs ht :=
    let ⟨_, htouch, hready⟩ := MemoryStore.steady.touch_ready (n := n) h.1 hs.1 ht
    ⟨_, onInner_eq h.2 htouch, hready, h.2⟩
  acquire_ready ms h := ⟨_, _, onInner_eq h.2 (MemoryStore.acquire_free h.1 ms), rfl, h.2⟩
  txnMaxId_open h := ⟨_, readInner_eq h.2⟩
  txnLoad_open _ _ h := ⟨_, readInner_eq h.2⟩
  txnInsert_open _ _ _ h := ⟨_, _, _, txnInsert_eq h.2 .., h⟩
  commit_open h := ⟨_, commit_eq h.2 _, rfl, h.2⟩

end UnreliableStore

end LogAnomaly
