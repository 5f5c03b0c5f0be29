import LogAnomaly.Store.Basic
import LogAnomaly.Text.Quoted

/-!
# Failures of clustering

* `StoreOperation`: what was asked of a store;
* `AssignmentError`: why a text gets no cluster.
-/

namespace LogAnomaly

/-- What a clusterer asks of a store. -/
inductive StoreOperation where
  | lock
  | readMaxId
  | catchUp
  | insert
  | commit
  | touch
  | loadAll
  deriving DecidableEq, Repr

/-- The name of an operation. -/
def StoreOperation.name : StoreOperation → String
  | .lock => "lock"
  | .readMaxId => "read max id"
  | .catchUp => "refresh"
  | .insert => "insert"
  | .commit => "commit"
  | .touch => "touch"
  | .loadAll => "load all"

/-- Why a text gets no cluster. -/
inductive AssignmentError where
  /-- The store failed during an operation for a component. -/
  | store (component : String) (operation : StoreOperation) (source : StoreFault)
  /-- The store gave a new cluster an id that the component has already. -/
  | knownId (component : String) (id : Nat)
  /-- A component has no cluster at the place where one was found. -/
  | strayPlace (component : String) (place : Nat)
  deriving DecidableEq, Repr

/-- The wording of a failure. -/
def AssignmentError.message : AssignmentError → String
  | .store component operation source =>
    "cluster store failure for component " ++ Text.quoted component ++ " during " ++
      operation.name ++ ": " ++ source.message
  | .knownId component id =>
    "clustering invariant violated: store assigned id " ++ toString id ++
      " already known to component " ++ Text.quoted component
  | .strayPlace component place =>
    "clustering invariant violated: cluster index " ++ toString place ++
      " out of range for component " ++ Text.quoted component

end LogAnomaly
