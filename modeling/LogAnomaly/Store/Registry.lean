import LogAnomaly.Store.Any

/-!
# Named stores

* `Registry`: stores by name. Stores on files name a directory, which several of them may share,
  so that what one of them does there is seen by the others.
-/

namespace LogAnomaly

/-- A named store. -/
inductive NamedStore where
  | memory (store : MemoryStore)
  | unreliable (store : UnreliableStore)
  | file (directory : String) (lockTimeoutMs : Nat)

/-- Stores by name, and what the directories of those on files hold. -/
structure Registry where
  stores : List (String × NamedStore) := []
  directories : List (String × StoreDirectory) := []

namespace Registry

/-- What a directory holds; at first it is empty. -/
def directory (name : String) (r : Registry) : StoreDirectory :=
  (r.directories.lookup name).getD {}

/-- The store of a name. -/
def get? (name : String) (r : Registry) : Option AnyStore :=
  (r.stores.lookup name).map fun
    | .memory store => .memory store
    | .unreliable store => .unreliable store
    | .file directory lockTimeoutMs => .file ⟨r.directory directory, lockTimeoutMs⟩

/-- Adds a store. -/
def add (name : String) (store : NamedStore) (r : Registry) : Registry :=
  { r with stores := (name, store) :: r.stores.filter (·.1 != name) }

/-- Sets what a directory holds. -/
def setDirectory (name : String) (directory : StoreDirectory) (r : Registry) : Registry :=
  { r with directories := (name, directory) :: r.directories.filter (·.1 != name) }

/-- Changes what the directory of a store holds; only stores on files have one. -/
def changeDirectory (name : String) (change : StoreDirectory → StoreDirectory) (r : Registry) :
    Registry :=
  match r.stores.lookup name with
  | some (.file directory _) => r.setDirectory directory (change (r.directory directory))
  | _ => r

/-- Puts a store back after an operation. -/
def put (name : String) (store : AnyStore) (r : Registry) : Registry :=
  match store with
  | .memory store => r.add name (.memory store)
  | .unreliable store => r.add name (.unreliable store)
  | .file store => r.changeDirectory name fun _ => store.directory

end Registry

end LogAnomaly
