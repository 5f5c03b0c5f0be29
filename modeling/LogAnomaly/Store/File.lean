import LogAnomaly.Store.Backoff
import LogAnomaly.Store.Document

/-!
# Stores in a directory

* `StoreDirectory`: what a directory holds for a store: the document with all clusters and the
  file that carries the lock;
* `FileStore`: a store on a directory.

Readers do not lock. A writer locks, reads the document, edits its copy and replaces the document
by it: first under a temporary name, then by renaming.
-/

namespace LogAnomaly

/-- The document of a directory. A blocked one can be neither read nor replaced. -/
inductive DocumentFile where
  | absent
  | text (content : String)
  | blocked
  deriving DecidableEq, Repr

/-- The lock of a directory. A blocked one cannot be taken. -/
inductive FileLock where
  | free
  | held
  | blocked
  deriving DecidableEq, Repr

/-- What a directory holds for a store. -/
structure StoreDirectory where
  document : DocumentFile := .absent
  lock : FileLock := .free
  /-- The temporary document cannot be written. -/
  tempBlocked : Bool := false
  deriving DecidableEq, Repr

/-- A store on a directory. -/
structure FileStore where
  directory : StoreDirectory := {}
  /-- How long recording a day waits for the lock. -/
  lockTimeoutMs : Nat := 30000
  deriving DecidableEq, Repr

namespace FileStore

/-- The name of the document. -/
def documentName : String := "clusters.json"

/-- The name of the file that carries the lock. -/
def lockName : String := "clusters.lock"

/-- The name under which a document is written before it takes the place of the old one. -/
def temporaryName : String := "clusters.json.1.tmp"

/-- The clusters of the document, none if there is no document. -/
def readClusters (s : FileStore) : Except StoreFault (List TextCluster) :=
  match s.directory.document with
  | .absent => .ok []
  | .blocked => .error .io
  | .text content =>
    match ClusterDocument.read? content with
    | some clusters => .ok clusters
    | none => .error .json

/-- Replaces the document. -/
def replaceClusters (clusters : List TextCluster) (s : FileStore) :
    Except StoreFault Unit × FileStore :=
  if s.directory.tempBlocked || s.directory.document == .blocked then (.error .io, s)
  else
    (.ok (), { s with
      directory := { s.directory with document := .text (ClusterDocument.write clusters) } })

/-- The store with the lock in the given state; a blocked lock stays so. -/
def setLock (lock : FileLock) (s : FileStore) : FileStore :=
  if s.directory.lock = .blocked then s
  else { s with directory := { s.directory with lock } }

/-- What an attempt to take the lock finds. -/
def attempt (s : FileStore) : Backoff.Attempt Unit :=
  match s.directory.lock with
  | .free => .acquired ()
  | .held => .busy
  | .blocked => .failed .io

/-- Takes the lock. -/
def lock (timeoutMs : Nat) (s : FileStore) : Except StoreFault Unit × FileStore :=
  match Backoff.acquireNow timeoutMs s.attempt with
  | .ok () => (.ok (), s.setLock .held)
  | .error e => (.error e, s)

/-- A cluster with an id, the first one of the document. -/
def findCluster? (id : Nat) (clusters : List TextCluster) : Option TextCluster :=
  clusters.find? (·.id == id)

/-- Records a day in the document, the lock being held. The document is not written if the day is
not later than the one it holds. -/
def touchLocked (id : Nat) (day : Day) (s : FileStore) : Except StoreFault Unit × FileStore :=
  match s.readClusters with
  | .error e => (.error e, s)
  | .ok clusters =>
    match findCluster? id clusters, touchFirst id day clusters with
    | some cluster, some touched =>
      if cluster.lastObserved < day then s.replaceClusters touched else (.ok (), s)
    | _, _ => (.error (.unknownCluster id), s)

/-- Records a day under the lock. -/
def touch (id : Nat) (day : Day) (s : FileStore) : Except StoreFault Unit × FileStore :=
  match s.lock s.lockTimeoutMs with
  | (.error e, s) => (.error e, s)
  | (.ok (), s) =>
    let (result, s) := s.touchLocked id day
    (result, s.setLock .free)

/-- What a transaction holds: its copy of the clusters, and whether that has inserts. -/
structure Txn where
  clusters : List TextCluster
  changed : Bool := false
  deriving DecidableEq, Repr

/-- Takes the lock and then reads the document, so that the copy has all committed clusters. -/
def acquire (timeoutMs : Nat) (s : FileStore) : Except StoreFault Txn × FileStore :=
  match s.lock timeoutMs with
  | (.error e, s) => (.error e, s)
  | (.ok (), s) =>
    match s.readClusters with
    | .ok clusters => (.ok { clusters }, s)
    | .error e => (.error e, s.setLock .free)

/-- Adds a cluster to the copy. -/
def Txn.insert (component text : String) (day : Day) (txn : Txn) : Nat × Txn :=
  let cluster := newCluster (greatestId txn.clusters) component text day
  (cluster.id, ⟨txn.clusters ++ [cluster], true⟩)

/-- Writes the copy if it has inserts, and frees the lock. -/
def commit (txn : Txn) (s : FileStore) : Except StoreFault Unit × FileStore :=
  let (result, s) := if txn.changed then s.replaceClusters txn.clusters else (.ok (), s)
  (result, s.setLock .free)

/-- The clusters of the document in the order of their ids. -/
def loadAll (s : FileStore) : Except StoreFault (List TextCluster) :=
  s.readClusters.map fun clusters => clusters.mergeSort fun a b => a.id ≤ b.id

instance : ClusterStore FileStore where
  Txn := Txn
  loadAll := loadAll
  load component after s := s.readClusters.map (selectClusters component after)
  maxId s := s.readClusters.map greatestId
  touch := touch
  acquire := acquire
  txnMaxId txn _ := .ok (greatestId txn.clusters)
  txnLoad component after txn _ := .ok (selectClusters component after txn.clusters)
  txnInsert component text day txn s := (.ok (txn.insert component text day), s)
  commit := commit
  rollback _ s := s.setLock .free

end FileStore

end LogAnomaly
