import LogAnomaly.Store.Memory

/-!
# Stores that fail on demand

* `UnreliableStore`: a store in memory whose operations fail as long as they are told to, and
  that may answer an insert with a given id. What fails changes nothing.
-/

namespace LogAnomaly

/-- An operation that can be made to fail. -/
inductive FaultPoint where
  | acquire
  | txnMaxId
  | txnLoad
  | txnInsert
  | commit
  | touch
  | loadAll
  deriving DecidableEq, Repr

/-- A store in memory with faults. -/
structure UnreliableStore where
  inner : MemoryStore := {}
  failing : List FaultPoint := []
  /-- The id that the next insert answers in place of its own. -/
  forcedId : Option Nat := none
  deriving DecidableEq, Repr

namespace UnreliableStore

/-- Whether an operation fails. -/
def fails (point : FaultPoint) (s : UnreliableStore) : Bool := s.failing.contains point

/-- Runs an operation of the store in memory. -/
def onInner {α : Type} (point : FaultPoint)
    (run : MemoryStore → Except StoreFault α × MemoryStore) (s : UnreliableStore) :
    Except StoreFault α × UnreliableStore :=
  if s.fails point then (.error .poisoned, s)
  else
    let (result, inner) := run s.inner
    (result, { s with inner })

/-- Reads from the store in memory. -/
def readInner {α : Type} (point : FaultPoint) (read : MemoryStore → Except StoreFault α)
    (s : UnreliableStore) : Except StoreFault α :=
  if s.fails point then .error .poisoned else read s.inner

/-- Stages a cluster; the answer is the forced id once, if there is one. -/
def txnInsert (component text : String) (day : Day) (staged : List TextCluster)
    (s : UnreliableStore) : Except StoreFault (Nat × List TextCluster) × UnreliableStore :=
  if s.fails .txnInsert then (.error .poisoned, s)
  else
    let (id, staged) := s.inner.txnInsert component text day staged
    (.ok (s.forcedId.getD id, staged), { s with forcedId := none })

/-- Adds what is staged; a commit that fails drops it. Either way the lock is free again. -/
def commit (staged : List TextCluster) (s : UnreliableStore) :
    Except StoreFault Unit × UnreliableStore :=
  if s.fails .commit then (.error .poisoned, { s with inner := s.inner.rollback })
  else (.ok (), { s with inner := s.inner.commit staged })

instance : ClusterStore UnreliableStore where
  Txn := List TextCluster
  loadAll := readInner .loadAll MemoryStore.committed
  load component after s := ClusterStore.load component after s.inner
  maxId s := ClusterStore.maxId s.inner
  touch id day := onInner .touch (MemoryStore.touch id day)
  acquire timeoutMs := onInner .acquire (MemoryStore.acquire timeoutMs)
  txnMaxId staged := readInner .txnMaxId fun s => .ok (greatestId (s.clusters ++ staged))
  txnLoad component after staged := readInner .txnLoad fun s =>
    .ok (selectClusters component after s.clusters ++ selectClusters component after staged)
  txnInsert := txnInsert
  commit := commit
  rollback _ s := { s with inner := s.inner.rollback }

end UnreliableStore

end LogAnomaly
