import LogAnomaly.Cluster.Basic

/-!
# Cluster stores

* `StoreFault`: why an operation of a store fails;
* `ClusterStore`: what a clusterer asks of a store. Clusters are inserted in a transaction, which
  holds an exclusive lock from its beginning to `commit` or `rollback`; what is rolled back leaves
  no trace.

An operation that may change the store gives the store after it, also when it fails.
-/

namespace LogAnomaly

/-- Why an operation of a store fails. -/
inductive StoreFault where
  /-- A file cannot be read, written or locked. -/
  | io
  /-- The document of the store cannot be read. -/
  | json
  /-- The lock was held by another writer all the time. -/
  | lockTimeout (waitedMs : Nat)
  /-- A writer died while it held the lock. -/
  | poisoned
  /-- There is no cluster with this id. -/
  | unknownCluster (id : Nat)
  deriving DecidableEq, Repr

/-- The wording of a failure. What the system says about files and documents is left open. -/
def StoreFault.message : StoreFault → String
  | .io => "I/O error: <io>"
  | .json => "JSON error: <json>"
  | .lockTimeout waited =>
    "timed out after " ++ toString waited ++ "ms waiting for the exclusive cluster lock"
  | .poisoned => "store lock poisoned"
  | .unknownCluster id => "unknown cluster id " ++ toString id

/-- A store of clusters. -/
class ClusterStore (σ : Type) where
  /-- What an open transaction holds. -/
  Txn : Type
  /-- All clusters. -/
  loadAll : σ → Except StoreFault (List TextCluster)
  /-- The clusters of a component with ids greater than a given one. -/
  load : String → Option Nat → σ → Except StoreFault (List TextCluster)
  /-- The greatest id of all components. -/
  maxId : σ → Except StoreFault (Option Nat)
  /-- Records that a cluster was observed on a day. -/
  touch : Nat → Day → σ → Except StoreFault Unit × σ
  /-- Takes the lock, waiting at most the given number of milliseconds. -/
  acquire : Nat → σ → Except StoreFault Txn × σ
  /-- The greatest id, inserted clusters included. -/
  txnMaxId : Txn → σ → Except StoreFault (Option Nat)
  /-- The clusters of a component with ids greater than a given one, inserted ones included. -/
  txnLoad : String → Option Nat → Txn → σ → Except StoreFault (List TextCluster)
  /-- Inserts a cluster of a component with a representative and a day; the store gives the id. -/
  txnInsert : String → String → Day → Txn → σ → Except StoreFault (Nat × Txn) × σ
  /-- Applies the inserts and gives the lock back. -/
  commit : Txn → σ → Except StoreFault Unit × σ
  /-- Drops the inserts and gives the lock back. -/
  rollback : Txn → σ → σ

/-- A cluster that gets the id after a greatest one. -/
def newCluster (greatest : Option Nat) (component text : String) (day : Day) : TextCluster :=
  ⟨idRank greatest, component, text, day⟩

/-- Records a day for the first cluster with an id, if there is one. An earlier day changes
nothing. -/
def touchFirst (id : Nat) (day : Day) : List TextCluster → Option (List TextCluster)
  | [] => none
  | c :: rest =>
    if c.id = id then some ({ c with lastObserved := c.lastObserved.latest day } :: rest)
    else (touchFirst id day rest).map (c :: ·)

end LogAnomaly
