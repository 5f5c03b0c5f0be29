import LogAnomaly.Proofs.Store.Stored
import LogAnomaly.Store.Unreliable

/-!
# The laws of a store

`LawfulStore` is what clusterers rely on. Every law speaks of an operation that gives an answer, or
of one that fails and leaves the clusters as they were; no law asks an operation to succeed. Stores
in memory are lawful, also those that fail on demand as long as they are not told to answer an id
of somebody else's choice.
-/

namespace LogAnomaly

open ClusterStore

/-- What a store does to its committed clusters. -/
class LawfulStore (σ : Type) [ClusterStore σ] where
  /-- The committed clusters, in the order of their insertion. -/
  Holds : List TextCluster → σ → Prop
  /-- A transaction is open: the committed clusters, and those that it has inserted. -/
  Staged : List TextCluster → List TextCluster → Txn σ → σ → Prop
  holds_unique {cs ds : List TextCluster} {s : σ} : Holds cs s → Holds ds s → cs = ds
  loadAll_ok {cs loaded : List TextCluster} {s : σ} :
    Holds cs s → loadAll s = .ok loaded → loaded.Perm cs
  touch_ok {cs : List TextCluster} {id : Nat} {day : Day} {s s' : σ} :
    Holds cs s → touch id day s = (.ok (), s') →
      ∃ cs', touchFirst id day cs = some cs' ∧ Holds cs' s'
  touch_error {cs : List TextCluster} {id : Nat} {day : Day} {e : StoreFault} {s s' : σ} :
    Holds cs s → touch id day s = (.error e, s') → Holds cs s'
  /-- Only an id that is not there is unknown. -/
  touch_unknown {cs : List TextCluster} {id n : Nat} {day : Day} {s s' : σ} :
    Holds cs s → touch id day s = (.error (.unknownCluster n), s') → touchFirst id day cs = none
  acquire_ok {cs : List TextCluster} {ms : Nat} {txn : Txn σ} {s s' : σ} :
    Holds cs s → acquire ms s = (.ok txn, s') → Staged cs [] txn s'
  acquire_error {cs : List TextCluster} {ms : Nat} {e : StoreFault} {s s' : σ} :
    Holds cs s → acquire ms s = (.error e, s') → Holds cs s'
  txnMaxId_ok {cs new : List TextCluster} {txn : Txn σ} {greatest : Option Nat} {s : σ} :
    Staged cs new txn s → txnMaxId txn s = .ok greatest → greatest = greatestId (cs ++ new)
  txnLoad_ok {cs new found : List TextCluster} {component : String} {after : Option Nat}
    {txn : Txn σ} {s : σ} :
    Staged cs new txn s → txnLoad component after txn s = .ok found →
      found = selectClusters component after (cs ++ new)
  txnInsert_ok {cs new : List TextCluster} {component text : String} {day : Day} {id : Nat}
    {txn txn' : Txn σ} {s s' : σ} :
    Staged cs new txn s → txnInsert component text day txn s = (.ok (id, txn'), s') →
      id = idRank (greatestId (cs ++ new)) ∧
        Staged cs (new ++ [newCluster (greatestId (cs ++ new)) component text day]) txn' s'
  txnInsert_error {cs new : List TextCluster} {component text : String} {day : Day}
    {e : StoreFault} {txn : Txn σ} {s s' : σ} :
    Staged cs new txn s → txnInsert component text day txn s = (.error e, s') →
      Staged cs new txn s'
  commit_ok {cs new : List TextCluster} {txn : Txn σ} {s s' : σ} :
    Staged cs new txn s → commit txn s = (.ok (), s') → Holds (cs ++ new) s'
  commit_error {cs new : List TextCluster} {e : StoreFault} {txn : Txn σ} {s s' : σ} :
    Staged cs new txn s → commit txn s = (.error e, s') → Holds cs s'
  rollback_holds {cs new : List TextCluster} {txn : Txn σ} {s : σ} :
    Staged cs new txn s → Holds cs (rollback txn s)

/-! ## Stores in memory -/

namespace MemoryStore

theorem acquire_cases (ms : Nat) (s : MemoryStore) :
    (∃ s', s.acquire ms = (.ok [], s') ∧ s'.clusters = s.clusters) ∨
      ∃ e, s.acquire ms = (.error e, s) := by
  unfold MemoryStore.acquire
  split
  · exact .inl ⟨_, rfl, rfl⟩
  · exact .inr ⟨_, rfl⟩

theorem touch_cases (id : Nat) (day : Day) (s : MemoryStore) :
    (∃ cs, touchFirst id day s.clusters = some cs ∧
        s.touch id day = (.ok (), { s with clusters := cs })) ∨
      s.touch id day = (.error .poisoned, s) ∨
      (touchFirst id day s.clusters = none ∧
        s.touch id day = (.error (.unknownCluster id), s)) := by
  unfold MemoryStore.touch
  split
  · exact .inr (.inl rfl)
  · split
    · rename_i cs h
      exact .inl ⟨cs, h, rfl⟩
    · rename_i h
      exact .inr (.inr ⟨h, rfl⟩)

theorem committed_eq_ok {s : MemoryStore} {cs : List TextCluster} (h : s.committed = .ok cs) :
    cs = s.clusters := by
  unfold committed at h
  split at h
  · cases h
  · exact (Except.ok.inj h).symm

instance lawful : LawfulStore MemoryStore where
  Holds cs s := s.clusters = cs
  Staged cs new txn s := s.clusters = cs ∧ txn = new
  holds_unique h h' := h.symm.trans h'
  loadAll_ok h hload := by
    rw [committed_eq_ok hload, h]
  touch_ok {cs id day s s'} h ht := by
    obtain rfl := h
    rcases touch_cases id day s with ⟨ds, hds, he⟩ | he | ⟨-, he⟩
    · cases he.symm.trans ht
      exact ⟨ds, hds, rfl⟩
    · cases he.symm.trans ht
    · cases he.symm.trans ht
  touch_error {cs id day e s s'} h ht := by
    rcases touch_cases id day s with ⟨ds, hds, he⟩ | he | ⟨-, he⟩ <;> cases he.symm.trans ht
    · exact h
    · exact h
  touch_unknown {cs id n day s s'} h ht := by
    rcases touch_cases id day s with ⟨ds, hds, he⟩ | he | ⟨hnone, he⟩ <;> cases he.symm.trans ht
    exact h ▸ hnone
  acquire_ok {cs ms txn s s'} h ha := by
    rcases acquire_cases ms s with ⟨t, he, ht⟩ | ⟨e, he⟩ <;> cases he.symm.trans ha
    exact ⟨ht.trans h, rfl⟩
  acquire_error {cs ms e s s'} h ha := by
    rcases acquire_cases ms s with ⟨t, he, ht⟩ | ⟨e, he⟩ <;> cases he.symm.trans ha
    exact h
  txnMaxId_ok h hmax := by
    obtain ⟨rfl, rfl⟩ := h
    exact (Except.ok.inj hmax).symm
  txnLoad_ok h hload := by
    obtain ⟨rfl, rfl⟩ := h
    rw [← Except.ok.inj hload]
    simp [selectClusters]
  txnInsert_ok h hins := by
    obtain ⟨rfl, rfl⟩ := h
    cases hins
    exact ⟨rfl, rfl, rfl⟩
  txnInsert_error _ hins := by cases hins
  commit_ok h hc := by
    obtain ⟨rfl, rfl⟩ := h
    cases hc
    rfl
  commit_error _ hc := by cases hc
  rollback_holds h := h.1

end MemoryStore

/-! ## Stores that fail on demand -/

namespace UnreliableStore

theorem readInner_ok {α : Type} {point : FaultPoint} {read : MemoryStore → Except StoreFault α}
    {a : α} {s : UnreliableStore} (h : readInner point read s = .ok a) : read s.inner = .ok a := by
  unfold readInner at h
  split at h
  · cases h
  · exact h

/-- An operation is refused, or it is that of the store in memory. -/
theorem onInner_cases {α : Type} {point : FaultPoint}
    {run : MemoryStore → Except StoreFault α × MemoryStore} {r : Except StoreFault α}
    {s s' : UnreliableStore} (h : onInner point run s = (r, s')) :
    (r = .error .poisoned ∧ s' = s) ∨
      ∃ inner, run s.inner = (r, inner) ∧ s' = { s with inner } := by
  unfold onInner at h
  split at h
  · cases h
    exact .inl ⟨rfl, rfl⟩
  · cases h
    exact .inr ⟨_, rfl, rfl⟩

instance lawful : LawfulStore UnreliableStore where
  Holds cs s := s.inner.clusters = cs ∧ s.forcedId = none
  Staged cs new txn s := (s.inner.clusters = cs ∧ txn = new) ∧ s.forcedId = none
  holds_unique h h' := MemoryStore.lawful.holds_unique h.1 h'.1
  loadAll_ok h hload := MemoryStore.lawful.loadAll_ok h.1 (readInner_ok hload)
  touch_ok {cs id day s s'} h ht := by
    rcases onInner_cases ht with ⟨he, -⟩ | ⟨inner, hrun, rfl⟩
    · cases he
    · obtain ⟨ds, hds, hinner⟩ := MemoryStore.lawful.touch_ok h.1 hrun
      exact ⟨ds, hds, hinner, h.2⟩
  touch_error {cs id day e s s'} h ht := by
    rcases onInner_cases ht with ⟨-, rfl⟩ | ⟨inner, hrun, rfl⟩
    · exact h
    · exact ⟨MemoryStore.lawful.touch_error h.1 hrun, h.2⟩
  touch_unknown {cs id n day s s'} h ht := by
    rcases onInner_cases ht with ⟨he, -⟩ | ⟨inner, hrun, rfl⟩
    · cases he
    · exact MemoryStore.lawful.touch_unknown h.1 hrun
  acquire_ok {cs ms txn s s'} h ha := by
    rcases onInner_cases ha with ⟨he, -⟩ | ⟨inner, hrun, rfl⟩
    · cases he
    · exact ⟨MemoryStore.lawful.acquire_ok h.1 hrun, h.2⟩
  acquire_error {cs ms e s s'} h ha := by
    rcases onInner_cases ha with ⟨-, rfl⟩ | ⟨inner, hrun, rfl⟩
    · exact h
    · exact ⟨MemoryStore.lawful.acquire_error h.1 hrun, h.2⟩
  txnMaxId_ok h hmax := MemoryStore.lawful.txnMaxId_ok h.1 (readInner_ok hmax)
  txnLoad_ok h hload := MemoryStore.lawful.txnLoad_ok h.1 (readInner_ok hload)
  txnInsert_ok {cs new component text day id txn txn' s s'} h hins := by
    replace hins : txnInsert component text day txn s = (.ok (id, txn'), s') := hins
    unfold txnInsert at hins
    split at hins
    · cases hins
    · obtain ⟨⟨rfl, rfl⟩, hforced⟩ := h
      cases hins
      rw [hforced]
      exact ⟨rfl, ⟨rfl, rfl⟩, rfl⟩
  txnInsert_error {cs new component text day e txn s s'} h hins := by
    replace hins : txnInsert component text day txn s = (.error e, s') := hins
    unfold txnInsert at hins
    split at hins
    · cases hins
      exact h
    · cases hins
  commit_ok {cs new txn s s'} h hc := by
    replace hc : commit txn s = (.ok (), s') := hc
    unfold commit at hc
    split at hc
    · cases hc
    · obtain ⟨⟨rfl, rfl⟩, hforced⟩ := h
      cases hc
      exact ⟨rfl, hforced⟩
  commit_error {cs new e txn s s'} h hc := by
    replace hc : commit txn s = (.error e, s') := hc
    unfold commit at hc
    split at hc
    · cases hc
      exact ⟨h.1.1, h.2⟩
    · cases hc
  rollback_holds h := ⟨h.1.1, h.2⟩

end UnreliableStore

end LogAnomaly
