import LogAnomaly.Store.Backoff

/-!
# Stores in memory

* `MemoryStore`: the clusters in the order in which they were inserted, behind a lock. Inserts of
  a transaction are staged beside them and added by `commit`.
-/

namespace LogAnomaly

/-- The state of the lock. -/
inductive MemoryLock where
  | free
  | held
  /-- A writer died while it held the lock. -/
  | poisoned
  deriving DecidableEq, Repr

/-- Clusters in memory. -/
structure MemoryStore where
  clusters : List TextCluster := []
  lock : MemoryLock := .free
  deriving DecidableEq, Repr

namespace MemoryStore

/-- The committed clusters. -/
def committed (s : MemoryStore) : Except StoreFault (List TextCluster) :=
  if s.lock = .poisoned then .error .poisoned else .ok s.clusters

/-- Records a day for a cluster. -/
def touch (id : Nat) (day : Day) (s : MemoryStore) : Except StoreFault Unit × MemoryStore :=
  if s.lock = .poisoned then (.error .poisoned, s)
  else
    match touchFirst id day s.clusters with
    | some clusters => (.ok (), { s with clusters })
    | none => (.error (.unknownCluster id), s)

/-- What an attempt to take the lock finds. -/
def attempt (s : MemoryStore) : Backoff.Attempt Unit :=
  match s.lock with
  | .free => .acquired ()
  | .held => .busy
  | .poisoned => .failed .poisoned

/-- Begins a transaction with nothing staged. -/
def acquire (timeoutMs : Nat) (s : MemoryStore) :
    Except StoreFault (List TextCluster) × MemoryStore :=
  match Backoff.acquireNow timeoutMs s.attempt with
  | .ok () => (.ok [], { s with lock := .held })
  | .error e => (.error e, s)

/-- Stages a cluster. -/
def txnInsert (component text : String) (day : Day) (staged : List TextCluster)
    (s : MemoryStore) : Nat × List TextCluster :=
  let cluster := newCluster (greatestId (s.clusters ++ staged)) component text day
  (cluster.id, staged ++ [cluster])

/-- Adds what is staged and frees the lock. -/
def commit (staged : List TextCluster) (s : MemoryStore) : MemoryStore :=
  ⟨s.clusters ++ staged, .free⟩

/-- Frees the lock. -/
def rollback (s : MemoryStore) : MemoryStore := { s with lock := .free }

/-- The store after a writer died that held the lock. -/
def poison (s : MemoryStore) : MemoryStore := { s with lock := .poisoned }

instance : ClusterStore MemoryStore where
  Txn := List TextCluster
  loadAll := committed
  load component after s := s.committed.map (selectClusters component after)
  maxId s := s.committed.map greatestId
  touch := touch
  acquire := acquire
  txnMaxId staged s := .ok (greatestId (s.clusters ++ staged))
  txnLoad component after staged s :=
    .ok (selectClusters component after s.clusters ++ selectClusters component after staged)
  txnInsert component text day staged s := (.ok (s.txnInsert component text day staged), s)
  commit staged s := (.ok (), s.commit staged)
  rollback _ s := s.rollback

end MemoryStore

end LogAnomaly
