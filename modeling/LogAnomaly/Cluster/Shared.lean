import LogAnomaly.Cluster.Error
import LogAnomaly.Cluster.Component

/-!
# Models that share a store

A model that shares a store makes a new cluster only under the lock of the store, after it has
caught up with the clusters that others have made there. The steps of one call are functions of
their own:

* `ComponentModel.closeFrom?`, `ComponentModel.recordMatch`: the search among the known clusters,
  without the store;
* `CountedModel.transact`: all that happens under the lock, in one step;
* `recordDay`: the day of a match, noted in the store after the lock is free;
* `CountedModel.addShared`: the whole call.
-/

namespace LogAnomaly

open ClusterStore

variable {σ : Type} [ClusterStore σ]

/-- Notes the day of a text in the store if it passes the day that the model knew. -/
def recordDay (component : String) (day : Day) (placement : Placement) (s : σ) :
    Except AssignmentError Assignment × σ :=
  if placement.advanced then
    match touch placement.assignment.clusterId day s with
    | (.error e, s) => (.error (.store component .touch e), s)
    | (.ok (), s) => (.ok placement.assignment, s)
  else (.ok placement.assignment, s)

namespace CountedModel

/-- A failure of the store on behalf of the component. -/
def failure (w : CountedModel) (operation : StoreOperation) (source : StoreFault) :
    AssignmentError :=
  .store w.model.component operation source

/-- Inserts a cluster, the model having caught up with the store. -/
def insert (o : Observation) (w : CountedModel) (txn : Txn σ) (s : σ) :
    Except AssignmentError Placement × CountedModel × σ :=
  match txnInsert w.model.component o.text o.day txn s with
  | (.error e, s) => (.error (w.failure .insert e), w, rollback txn s)
  | (.ok (id, txn), s) =>
    if w.model.ids.contains id then
      (.error (.knownId w.model.component id), w, rollback txn s)
    else
      match commit txn s with
      | (.error e, s) => (.error (w.failure .commit e), w, s)
      | (.ok (), s) => (.ok ⟨⟨id, .created⟩, false⟩, w.adopt id o, s)

/-- Catches up with the store and then takes the first close cluster among the new ones, or
inserts a cluster. -/
def catchUp (o : Observation) (storeMax : Option Nat) (w : CountedModel) (txn : Txn σ) (s : σ) :
    Except AssignmentError Placement × CountedModel × σ :=
  match txnLoad w.model.component w.model.knownUpTo txn s with
  | .error e => (.error (w.failure .catchUp e), w, rollback txn s)
  | .ok fresh =>
    let start := w.model.entries.length
    let merged := w.merge fresh
    let synced := { merged with model := merged.model.catchUpTo storeMax }
    match synced.model.closeFrom? start o with
    | none => synced.insert o txn s
    | some place =>
      match commit txn s with
      | (.error e, s) => (.error (synced.failure .commit e), synced, s)
      | (.ok (), s) =>
        let (result, matched) := synced.recordMatch place o
        (result, matched, s)

/-- All that happens under the lock. -/
def transact (o : Observation) (w : CountedModel) (s : σ) :
    Except AssignmentError Placement × CountedModel × σ :=
  match acquire w.model.rules.lockTimeoutMs s with
  | (.error e, s) => (.error (w.failure .lock e), w, s)
  | (.ok txn, s) =>
    match txnMaxId txn s with
    | .error e => (.error (w.failure .readMaxId e), w, rollback txn s)
    | .ok storeMax =>
      if idRank w.model.knownUpTo < idRank storeMax then w.catchUp o storeMax txn s
      else w.insert o txn s

/-- The cluster of a text: the first close one that is known, or what the transaction gives. -/
def placeShared (o : Observation) (w : CountedModel) (s : σ) :
    Except AssignmentError Placement × CountedModel × σ :=
  match w.model.closeFrom? 0 o with
  | some place =>
    let (result, matched) := w.recordMatch place o
    (result, matched, s)
  | none => w.transact o s

/-- The cluster of a text, and its day noted in the store. -/
def addShared (text : String) (time : Instant) (w : CountedModel) (s : σ) :
    Except AssignmentError Assignment × CountedModel × σ :=
  let o := w.model.rules.observe text time
  match w.placeShared o s with
  | (.error e, w, s) => (.error e, w, s)
  | (.ok placement, w, s) =>
    let (result, s) := recordDay w.model.component o.day placement s
    (result, w, s)

end CountedModel

end LogAnomaly
