import LogAnomaly.Store.File
import LogAnomaly.Store.Unreliable

/-!
# Stores of any kind

* `AnyStore`: a store of one of the three kinds, so that stores of different kinds can be used
  side by side.
-/

namespace LogAnomaly

/-- A store of one of the three kinds. -/
inductive AnyStore where
  | memory (store : MemoryStore)
  | file (store : FileStore)
  | unreliable (store : UnreliableStore)

namespace AnyStore

/-- A transaction of one of the three kinds. -/
inductive Txn where
  | staged (clusters : List TextCluster)
  | copied (txn : FileStore.Txn)

/-- The clusters that a transaction has staged; those of a copy count as staged. -/
def Txn.toStaged : Txn → List TextCluster
  | .staged clusters => clusters
  | .copied txn => txn.clusters

/-- The copy that a transaction holds; staged clusters count as a copy with inserts. -/
def Txn.toCopy : Txn → FileStore.Txn
  | .staged clusters => ⟨clusters, true⟩
  | .copied txn => txn

/-- An answer with the store after it. -/
def wrap {α τ : Type} (kind : τ → AnyStore) (answer : Except StoreFault α × τ) :
    Except StoreFault α × AnyStore :=
  (answer.1, kind answer.2)

/-- An answer that holds a transaction, with the store after it. -/
def wrapWith {α β τ : Type} (kind : τ → AnyStore) (convert : α → β)
    (answer : Except StoreFault α × τ) : Except StoreFault β × AnyStore :=
  (answer.1.map convert, kind answer.2)

instance : ClusterStore AnyStore where
  Txn := Txn
  loadAll
    | .memory s => ClusterStore.loadAll s
    | .file s => ClusterStore.loadAll s
    | .unreliable s => ClusterStore.loadAll s
  load component after
    | .memory s => ClusterStore.load component after s
    | .file s => ClusterStore.load component after s
    | .unreliable s => ClusterStore.load component after s
  maxId
    | .memory s => ClusterStore.maxId s
    | .file s => ClusterStore.maxId s
    | .unreliable s => ClusterStore.maxId s
  touch id day
    | .memory s => wrap .memory (ClusterStore.touch id day s)
    | .file s => wrap .file (ClusterStore.touch id day s)
    | .unreliable s => wrap .unreliable (ClusterStore.touch id day s)
  acquire timeoutMs
    | .memory s => wrapWith .memory Txn.staged (s.acquire timeoutMs)
    | .file s => wrapWith .file Txn.copied (s.acquire timeoutMs)
    | .unreliable s => wrapWith .unreliable Txn.staged (ClusterStore.acquire timeoutMs s)
  txnMaxId txn
    | .memory s => ClusterStore.txnMaxId txn.toStaged s
    | .file s => ClusterStore.txnMaxId txn.toCopy s
    | .unreliable s => ClusterStore.txnMaxId txn.toStaged s
  txnLoad component after txn
    | .memory s => ClusterStore.txnLoad component after txn.toStaged s
    | .file s => ClusterStore.txnLoad component after txn.toCopy s
    | .unreliable s => ClusterStore.txnLoad component after txn.toStaged s
  txnInsert component text day txn
    | .memory s =>
      wrapWith .memory (Prod.map id Txn.staged)
        (ClusterStore.txnInsert component text day txn.toStaged s)
    | .file s =>
      wrapWith .file (Prod.map id Txn.copied)
        (ClusterStore.txnInsert component text day txn.toCopy s)
    | .unreliable s =>
      wrapWith .unreliable (Prod.map id Txn.staged)
        (ClusterStore.txnInsert component text day txn.toStaged s)
  commit txn
    | .memory s => wrap .memory (ClusterStore.commit txn.toStaged s)
    | .file s => wrap .file (ClusterStore.commit txn.toCopy s)
    | .unreliable s => wrap .unreliable (ClusterStore.commit txn.toStaged s)
  rollback txn
    | .memory s => .memory s.rollback
    | .file s => .file (ClusterStore.rollback txn.toCopy s)
    | .unreliable s => .unreliable (ClusterStore.rollback txn.toStaged s)

/-- The store after a writer died in a transaction: what it inserted is lost. The lock of a file
is freed by the system, that of a store in memory stays poisoned. -/
def afterDeath (s : AnyStore) : AnyStore :=
  match ClusterStore.acquire 0 s with
  | (.ok _, .memory s) => .memory s.poison
  | (.ok _, .unreliable s) => .unreliable { s with inner := s.inner.poison }
  | _ => s

end AnyStore

end LogAnomaly
