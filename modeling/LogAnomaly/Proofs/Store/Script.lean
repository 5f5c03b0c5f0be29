import LogAnomaly.Proofs.Store.Directory
import LogAnomaly.Proofs.Time.Parts
import Mathlib.Data.List.Infix

/-!
# Scripts

What is asked of a store, one operation after the other. A transaction is one operation with
operations inside it, so no two writers are ever at work at once.

* `StoreStep`, `StoreStep.runAll`: scripts and their answers, for any store;
* `Alike`: a store in memory and one on a directory that hold the same clusters. Each operation has
  the same answer on both and keeps them alike (`Alike.run`, `Alike.runAll`), if the document that
  it leaves can be read back;
* `memory_and_file_answer_alike`: so no script tells them apart.
-/

namespace LogAnomaly

open ClusterStore

/-! ## Operations and answers -/

/-- An operation inside a transaction. -/
inductive TxnStep where
  | maxId
  | load (component : String) (after : Option Nat)
  | insert (component text : String) (day : Day)
  deriving DecidableEq

/-- The answer to an operation inside a transaction. -/
inductive TxnAnswer where
  | greatest (answer : Except StoreFault (Option Nat))
  | clusters (answer : Except StoreFault (List TextCluster))
  | inserted (answer : Except StoreFault Nat)
  deriving DecidableEq

/-- An operation on a store. -/
inductive StoreStep where
  | loadAll
  | load (component : String) (after : Option Nat)
  | maxId
  | touch (id : Nat) (day : Day)
  /-- A whole transaction, which ends with a commit or is dropped. -/
  | transaction (timeoutMs : Nat) (steps : List TxnStep) (commits : Bool)
  deriving DecidableEq

/-- The answer to an operation on a store. -/
inductive StoreAnswer where
  | clusters (answer : Except StoreFault (List TextCluster))
  | greatest (answer : Except StoreFault (Option Nat))
  | touched (answer : Except StoreFault Unit)
  /-- The transaction has not begun. -/
  | refused (fault : StoreFault)
  /-- The answers inside a transaction, and the one to its end. -/
  | ended (answers : List TxnAnswer) (answer : Except StoreFault Unit)
  deriving DecidableEq

/-- The fault that an answer tells of, if any. -/
def faultOf {α : Type} : Except StoreFault α → List StoreFault
  | .ok _ => []
  | .error e => [e]

/-- The faults that an answer tells of. -/
def TxnAnswer.faults : TxnAnswer → List StoreFault
  | .greatest answer => faultOf answer
  | .clusters answer => faultOf answer
  | .inserted answer => faultOf answer

/-- The faults that an answer tells of, those inside a transaction too. -/
def StoreAnswer.faults : StoreAnswer → List StoreFault
  | .clusters answer => faultOf answer
  | .greatest answer => faultOf answer
  | .touched answer => faultOf answer
  | .refused fault => [fault]
  | .ended answers answer => answers.flatMap TxnAnswer.faults ++ faultOf answer

section Run

variable {σ : Type} [ClusterStore σ]

/-- Runs an operation inside a transaction. -/
def TxnStep.run (step : TxnStep) (txn : Txn σ) (s : σ) : TxnAnswer × Txn σ × σ :=
  match step with
  | .maxId => (.greatest (txnMaxId txn s), txn, s)
  | .load component after => (.clusters (txnLoad component after txn s), txn, s)
  | .insert component text day =>
    match txnInsert component text day txn s with
    | (.ok (id, txn), s) => (.inserted (.ok id), txn, s)
    | (.error e, s) => (.inserted (.error e), txn, s)

/-- Runs operations inside a transaction. -/
def TxnStep.runAll : List TxnStep → Txn σ → σ → List TxnAnswer × Txn σ × σ
  | [], txn, s => ([], txn, s)
  | step :: steps, txn, s =>
    let (answer, txn, s) := step.run txn s
    let (answers, txn, s) := runAll steps txn s
    (answer :: answers, txn, s)

/-- Runs an operation on a store. -/
def StoreStep.run (step : StoreStep) (s : σ) : StoreAnswer × σ :=
  match step with
  | .loadAll => (.clusters (ClusterStore.loadAll s), s)
  | .load component after => (.clusters (ClusterStore.load component after s), s)
  | .maxId => (.greatest (ClusterStore.maxId s), s)
  | .touch id day =>
    let (answer, s) := ClusterStore.touch id day s
    (.touched answer, s)
  | .transaction timeoutMs steps commits =>
    match acquire timeoutMs s with
    | (.error e, s) => (.refused e, s)
    | (.ok txn, s) =>
      let (answers, txn, s) := TxnStep.runAll steps txn s
      if commits then
        let (answer, s) := commit txn s
        (.ended answers answer, s)
      else (.ended answers (.ok ()), rollback txn s)

/-- Runs a script on a store. -/
def StoreStep.runAll : List StoreStep → σ → List StoreAnswer × σ
  | [], s => ([], s)
  | step :: steps, s =>
    let (answer, s) := step.run s
    let (answers, s) := runAll steps s
    (answer :: answers, s)

theorem StoreStep.run_transaction {ms : Nat} {steps : List TxnStep} {answers : List TxnAnswer}
    {txn txn' : Txn σ} {s s' s'' : σ} (ha : acquire ms s = (.ok txn, s'))
    (hr : TxnStep.runAll steps txn s' = (answers, txn', s'')) (commits : Bool) :
    (StoreStep.transaction ms steps commits).run s =
      if commits then (.ended answers (commit txn' s'').1, (commit txn' s'').2)
      else (.ended answers (.ok ()), rollback txn' s'') := by
  rw [run, ha]
  simp only [hr]

theorem StoreStep.runAll_cons (step : StoreStep) (steps : List StoreStep) (s : σ) :
    runAll (step :: steps) s =
      ((step.run s).1 :: (runAll steps (step.run s).2).1, (runAll steps (step.run s).2).2) := rfl

theorem StoreStep.runAll_append (steps later : List StoreStep) (s : σ) :
    runAll (steps ++ later) s =
      ((runAll steps s).1 ++ (runAll later (runAll steps s).2).1,
        (runAll later (runAll steps s).2).2) := by
  induction steps generalizing s with
  | nil => rfl
  | cons step steps ih =>
    rw [List.cons_append, runAll_cons, ih, runAll_cons]
    rfl

end Run

/-- The clusters that the operations of a transaction have inserted, with the ids that were the
answers. -/
def TxnStep.inserted : List TxnStep → List TxnAnswer → List TextCluster
  | .insert component text day :: steps, .inserted (.ok id) :: answers =>
    ⟨id, component, text, day⟩ :: inserted steps answers
  | _ :: steps, _ :: answers => inserted steps answers
  | _, _ => []

/-- The document of the clusters is read as it was written. -/
def ClusterDocument.ReadsBack (clusters : List TextCluster) : Prop :=
  read? (write clusters) = some clusters

instance : DecidablePred ClusterDocument.ReadsBack := fun clusters =>
  inferInstanceAs (Decidable
    (ClusterDocument.read? (ClusterDocument.write clusters) = some clusters))

/-! ## Inside a transaction -/

section Inside

/-- The copy of a transaction with some more inserts. -/
def FileStore.Txn.extended (new : List TextCluster) (txn : FileStore.Txn) : FileStore.Txn :=
  ⟨txn.clusters ++ new, txn.changed || !new.isEmpty⟩

@[simp] theorem FileStore.Txn.extended_nil (txn : FileStore.Txn) : txn.extended [] = txn := by
  simp [extended]

theorem FileStore.Txn.extended_extended (new more : List TextCluster) (txn : FileStore.Txn) :
    (txn.extended new).extended more = txn.extended (new ++ more) := by
  cases new <;> simp [extended]

variable {staged : List TextCluster} {m : MemoryStore} {txn : FileStore.Txn} {f : FileStore}

/-- An operation inside a transaction has the same answer beside the committed clusters as in a copy
of them. It leaves the store alone and adds at most one cluster. -/
theorem TxnStep.run_alike (step : TxnStep) (hcopy : txn.clusters = m.clusters ++ staged) :
    ∃ answer new,
      step.run (staged : Txn MemoryStore) m = (answer, staged ++ new, m) ∧
      step.run (txn : Txn FileStore) f = (answer, txn.extended new, f) ∧
      new = inserted [step] [answer] ∧ answer.faults = [] ∧
      (IdsAscending txn.clusters → IdsAscending (txn.extended new).clusters) := by
  obtain ⟨clusters, changed⟩ := txn
  obtain rfl : clusters = m.clusters ++ staged := hcopy
  cases step with
  | maxId =>
    refine ⟨.greatest (.ok (greatestId (m.clusters ++ staged))), [], ?_, ?_, rfl, rfl, ?_⟩
    · rw [List.append_nil]
      rfl
    · rw [FileStore.Txn.extended_nil]
      rfl
    · rw [FileStore.Txn.extended_nil]
      exact id
  | load component after =>
    refine ⟨.clusters (.ok (selectClusters component after (m.clusters ++ staged))), [], ?_, ?_,
      rfl, rfl, ?_⟩
    · rw [List.append_nil, selectClusters, List.filter_append]
      rfl
    · rw [FileStore.Txn.extended_nil]
      rfl
    · rw [FileStore.Txn.extended_nil]
      exact id
  | insert component text day =>
    refine ⟨.inserted (.ok (idRank (greatestId (m.clusters ++ staged)))),
      [newCluster (greatestId (m.clusters ++ staged)) component text day], rfl, ?_, rfl, rfl,
      fun hs => hs.concat component text day⟩
    simp only [FileStore.Txn.extended, List.isEmpty_cons, Bool.not_false, Bool.or_true]
    rfl

/-- And so have any number of them. -/
theorem TxnStep.runAll_alike (steps : List TxnStep) (hcopy : txn.clusters = m.clusters ++ staged) :
    ∃ answers new,
      runAll steps (staged : Txn MemoryStore) m = (answers, staged ++ new, m) ∧
      runAll steps (txn : Txn FileStore) f = (answers, txn.extended new, f) ∧
      new = inserted steps answers ∧ (∀ a ∈ answers, a.faults = []) ∧
      (IdsAscending txn.clusters → IdsAscending (txn.extended new).clusters) := by
  induction steps generalizing staged txn with
  | nil =>
    refine ⟨[], [], ?_, ?_, rfl, by simp, ?_⟩
    · rw [List.append_nil]
      rfl
    · rw [FileStore.Txn.extended_nil]
      rfl
    · rw [FileStore.Txn.extended_nil]
      exact id
  | cons step steps ih =>
    obtain ⟨answer, new, hm, hf, hnew, hok, hasc⟩ := step.run_alike (f := f) hcopy
    have hcopy' : (txn.extended new).clusters = m.clusters ++ (staged ++ new) := by
      rw [FileStore.Txn.extended, hcopy, List.append_assoc]
    obtain ⟨answers, more, hms, hfs, hmore, hoks, hascs⟩ := ih hcopy'
    rw [FileStore.Txn.extended_extended] at hfs hascs
    refine ⟨answer :: answers, new ++ more, ?_, ?_, ?_, ?_, fun hs => hascs (hasc hs)⟩
    · rw [runAll, hm]
      simp only [hms, List.append_assoc]
    · rw [runAll, hf]
      simp only [hfs]
    · rw [hnew, hmore]
      cases step with
      | maxId | load => rfl
      | insert component text day =>
        cases answer with
        | greatest | clusters => rfl
        | inserted result => cases result <;> rfl
    · intro a ha
      rcases List.mem_cons.1 ha with rfl | ha
      · exact hok
      · exact hoks a ha

end Inside

/-! ## Between transactions -/

/-- A store in memory and one on a directory with the same clusters. Nobody holds a lock, and
nothing keeps the document from being written. -/
structure Alike (m : MemoryStore) (f : FileStore) : Prop where
  memory_free : m.lock = .free
  file_free : f.directory.lock = .free
  writable : f.directory.tempBlocked = false
  reads : f.readClusters = .ok m.clusters
  ascending : IdsAscending m.clusters

namespace Alike

variable {m : MemoryStore} {f : FileStore}

theorem start (lockTimeoutMs : Nat) : Alike {} { lockTimeoutMs } :=
  ⟨rfl, rfl, rfl, rfl, List.Pairwise.nil⟩

theorem committed_eq (h : Alike m f) : m.committed = .ok m.clusters := by
  rw [MemoryStore.committed, h.memory_free]
  rfl

/-- The clusters of the document are in the order of their ids as they are. -/
theorem loadAll_eq (h : Alike m f) : f.loadAll = .ok m.clusters := by
  rw [FileStore.loadAll, h.reads]
  have hsorted : m.clusters.mergeSort (fun a b => a.id ≤ b.id) = m.clusters :=
    List.mergeSort_of_pairwise (h.ascending.imp fun hlt => decide_eq_true (Nat.le_of_lt hlt))
  rw [Except.map, hsorted]

/-- What is written under the lock is what the store in memory gets. -/
theorem replaced (h : Alike m f) {cs : List TextCluster} (hback : ClusterDocument.ReadsBack cs)
    (hasc : IdsAscending cs) :
    Alike { m with clusters := cs } (f.written cs) where
  memory_free := h.memory_free
  file_free := h.file_free
  writable := h.writable
  reads := by
    simp only [FileStore.readClusters, FileStore.written]
    rw [hback]
  ascending := hasc

/-- A day is recorded in both stores, or in none. -/
theorem touch (h : Alike m f) (id : Nat) (day : Day)
    (hback : ClusterDocument.ReadsBack (m.touch id day).2.clusters) :
    (f.touch id day).1 = (m.touch id day).1 ∧
      (∀ e ∈ faultOf (m.touch id day).1, ∃ id, e = .unknownCluster id) ∧
      Alike (m.touch id day).2 (f.touch id day).2 := by
  cases ht : touchFirst id day m.clusters with
  | none =>
    have hm : m.touch id day = (.error (.unknownCluster id), m) := by
      rw [MemoryStore.touch, ht, h.memory_free]
      rfl
    rw [hm, FileStore.touch_missing h.file_free h.reads ht]
    exact ⟨rfl, by simp [faultOf], h⟩
  | some touched =>
    have hm : m.touch id day = (.ok (), { m with clusters := touched }) :=
      MemoryStore.touch_free h.memory_free ht
    rw [hm] at hback ⊢
    rcases FileStore.touch_found h.file_free h.writable h.reads ht with hf | ⟨hsame, hf⟩
    · rw [hf]
      exact ⟨rfl, by simp [faultOf],
        h.replaced hback (h.ascending.of_map_identity (map_identity_touchFirst ht))⟩
    · rw [hf, hsame]
      exact ⟨rfl, by simp [faultOf], h⟩

/-- The inserts of a transaction come to both stores, or to none: a dropped transaction leaves them
exactly as they were. -/
theorem transaction (h : Alike m f) (ms : Nat) (steps : List TxnStep) (commits : Bool)
    (hback : ClusterDocument.ReadsBack
      ((StoreStep.transaction ms steps commits).run m).2.clusters) :
    ∃ answers m' f',
      (StoreStep.transaction ms steps commits).run m = (.ended answers (.ok ()), m') ∧
      (StoreStep.transaction ms steps commits).run f = (.ended answers (.ok ()), f') ∧
      (commits = true → m'.clusters = m.clusters ++ TxnStep.inserted steps answers) ∧
      (commits = false → m' = m ∧ f' = f) ∧ (∀ a ∈ answers, a.faults = []) ∧ Alike m' f' := by
  obtain ⟨cs, lock⟩ := m
  obtain rfl : lock = .free := h.memory_free
  have hcopy : (⟨cs, false⟩ : FileStore.Txn).clusters =
      (⟨cs, .held⟩ : MemoryStore).clusters ++ [] := (List.append_nil _).symm
  obtain ⟨answers, new, hm, hf, hnew, hok, hasc⟩ :=
    TxnStep.runAll_alike (f := f.setLock .held) steps hcopy
  have hmacquired : acquire ms (⟨cs, .free⟩ : MemoryStore) = (.ok [], ⟨cs, .held⟩) :=
    MemoryStore.acquire_free rfl ms
  have hfacquired : acquire ms f = (.ok { clusters := cs }, f.setLock .held) :=
    FileStore.acquire_free h.file_free h.reads ms
  have hmrun := StoreStep.run_transaction hmacquired hm commits
  have hfrun := StoreStep.run_transaction hfacquired hf commits
  cases commits with
  | false =>
    have hgive : rollback (⟨cs ++ new, !new.isEmpty⟩ : FileStore.Txn) (f.setLock .held) = f :=
      FileStore.setLock_setLock_free h.file_free
    refine ⟨answers, _, _, hmrun, hfrun.trans ?_, nofun, fun _ => ⟨rfl, rfl⟩, hok, h⟩
    exact congrArg (StoreAnswer.ended answers (.ok ()), ·) hgive
  | true =>
    have hcommit : commit (⟨cs ++ new, !new.isEmpty⟩ : FileStore.Txn) (f.setLock .held) =
        (.ok (), if !new.isEmpty then f.written (cs ++ new) else f) :=
      FileStore.commit_locked h.file_free h.writable h.reads _
    have hafter : Alike ⟨cs ++ new, .free⟩ (if !new.isEmpty then f.written (cs ++ new) else f) := by
      split
      · rw [hmrun] at hback
        exact h.replaced hback (hasc h.ascending)
      · rename_i hnone
        obtain rfl : new = [] := by simpa using hnone
        rw [List.append_nil]
        exact h
    refine ⟨answers, _, _, hmrun, hfrun.trans ?_, fun _ => congrArg (cs ++ ·) hnew, nofun, hok,
      hafter⟩
    exact congrArg (fun r => (StoreAnswer.ended answers r.1, r.2)) hcommit

/-- A question about the committed clusters has the same answer. -/
theorem map_committed (h : Alike m f) {α : Type} (question : List TextCluster → α) :
    m.committed.map question = .ok (question m.clusters) ∧
      f.readClusters.map question = .ok (question m.clusters) := by
  rw [h.committed_eq, h.reads]
  exact ⟨rfl, rfl⟩

/-- Stores that are alike give the same answer to an operation, and are alike after it. The only
fault is that an id is unknown. -/
theorem run (h : Alike m f) (step : StoreStep)
    (hback : ClusterDocument.ReadsBack (step.run m).2.clusters) :
    (step.run f).1 = (step.run m).1 ∧
      (∀ e ∈ (step.run m).1.faults, ∃ id, e = .unknownCluster id) ∧
      Alike (step.run m).2 (step.run f).2 := by
  cases step with
  | loadAll =>
    show StoreAnswer.clusters f.loadAll = .clusters m.committed ∧
      (∀ e ∈ faultOf m.committed, ∃ id, e = .unknownCluster id) ∧ Alike m f
    rw [h.loadAll_eq, h.committed_eq]
    exact ⟨rfl, by simp [faultOf], h⟩
  | load component after =>
    obtain ⟨hm, hf⟩ := h.map_committed (selectClusters component after)
    show StoreAnswer.clusters (f.readClusters.map _) = .clusters (m.committed.map _) ∧
      (∀ e ∈ faultOf (m.committed.map _), ∃ id, e = .unknownCluster id) ∧ Alike m f
    rw [hm, hf]
    exact ⟨rfl, by simp [faultOf], h⟩
  | maxId =>
    obtain ⟨hm, hf⟩ := h.map_committed greatestId
    show StoreAnswer.greatest (f.readClusters.map _) = .greatest (m.committed.map _) ∧
      (∀ e ∈ faultOf (m.committed.map _), ∃ id, e = .unknownCluster id) ∧ Alike m f
    rw [hm, hf]
    exact ⟨rfl, by simp [faultOf], h⟩
  | touch id day =>
    obtain ⟨hanswer, hfault, hafter⟩ := h.touch id day hback
    exact ⟨congrArg StoreAnswer.touched hanswer, hfault, hafter⟩
  | transaction ms steps commits =>
    obtain ⟨answers, m', f', hm, hf, -, -, hok, hafter⟩ := h.transaction ms steps commits hback
    rw [hm, hf]
    refine ⟨rfl, fun e he => ?_, hafter⟩
    have hnone : answers.flatMap TxnAnswer.faults = [] := List.flatMap_eq_nil_iff.2 hok
    rw [StoreAnswer.faults, hnone] at he
    cases he

/-- And so with any number of operations. -/
theorem runAll (h : Alike m f) (script : List StoreStep)
    (hback : ∀ earlier, earlier <+: script →
      ClusterDocument.ReadsBack (StoreStep.runAll earlier m).2.clusters) :
    (StoreStep.runAll script f).1 = (StoreStep.runAll script m).1 ∧
      (∀ answer ∈ (StoreStep.runAll script m).1,
        ∀ e ∈ answer.faults, ∃ id, e = .unknownCluster id) ∧
      Alike (StoreStep.runAll script m).2 (StoreStep.runAll script f).2 := by
  induction script generalizing m f with
  | nil => exact ⟨rfl, by simp [StoreStep.runAll], h⟩
  | cons step script ih =>
    obtain ⟨hanswer, hfault, hafter⟩ :=
      h.run step (hback [step] (List.prefix_append [step] script))
    obtain ⟨hanswers, hfaults, hafters⟩ := ih hafter fun earlier hearlier =>
      hback (step :: earlier) (List.cons_prefix_cons.2 ⟨rfl, hearlier⟩)
    simp only [StoreStep.runAll_cons]
    refine ⟨?_, ?_, hafters⟩
    · rw [hanswer, hanswers]
    · intro answer hmem
      rcases List.mem_cons.1 hmem with rfl | hmem
      · exact hfault
      · exact hfaults answer hmem

end Alike

/-! ## Scripts -/

/-- No script tells an empty store in memory from one on an empty directory, as long as each
document that the directory gets can be read back. All answers are the same, and no operation fails
but for a day that is recorded for an unknown id. Before and after each operation the document has
the clusters of the store in memory, in the order of their ids. A transaction that is dropped leaves
both stores exactly as they were, and one that commits adds its inserts at the end. -/
theorem memory_and_file_answer_alike (script : List StoreStep) (lockTimeoutMs : Nat)
    (hback : ∀ earlier, earlier <+: script →
      ClusterDocument.ReadsBack (StoreStep.runAll earlier ({} : MemoryStore)).2.clusters) :
    (StoreStep.runAll script ({ lockTimeoutMs } : FileStore)).1 =
        (StoreStep.runAll script ({} : MemoryStore)).1 ∧
      (∀ answer ∈ (StoreStep.runAll script ({} : MemoryStore)).1,
        ∀ e ∈ answer.faults, ∃ id, e = .unknownCluster id) ∧
      ∀ earlier step later, script = earlier ++ step :: later →
        let memory := (StoreStep.runAll earlier ({} : MemoryStore)).2
        let file := (StoreStep.runAll earlier ({ lockTimeoutMs } : FileStore)).2
        (step.run file).1 = (step.run memory).1 ∧
          file.readClusters = .ok memory.clusters ∧ IdsAscending memory.clusters ∧
          (step.run file).2.readClusters = .ok (step.run memory).2.clusters ∧
          IdsAscending (step.run memory).2.clusters ∧
          (∀ ms steps, step = .transaction ms steps false →
            (step.run memory).2 = memory ∧ (step.run file).2 = file) ∧
          ∀ ms steps, step = .transaction ms steps true → ∃ answers,
            (step.run memory).1 = .ended answers (.ok ()) ∧
              (step.run memory).2.clusters = memory.clusters ++ TxnStep.inserted steps answers := by
  obtain ⟨hanswers, hfaults, -⟩ := (Alike.start lockTimeoutMs).runAll script hback
  refine ⟨hanswers, hfaults, ?_⟩
  rintro earlier step later rfl
  have hbefore := (Alike.start lockTimeoutMs).runAll earlier fun first hfirst =>
    hback first (hfirst.trans (List.prefix_append earlier _))
  have hstep : ClusterDocument.ReadsBack
      (step.run (StoreStep.runAll earlier ({} : MemoryStore)).2).2.clusters := by
    have hread := hback (earlier ++ [step]) ⟨later, by simp⟩
    rw [StoreStep.runAll_append] at hread
    exact hread
  have halike := hbefore.2.2
  obtain ⟨hanswer, -, hafter⟩ := halike.run step hstep
  refine ⟨hanswer, halike.reads, halike.ascending, hafter.reads, hafter.ascending, ?_, ?_⟩
  · rintro ms steps rfl
    obtain ⟨answers, m', f', hm, hf, -, hdropped, -⟩ := halike.transaction ms steps false hstep
    rw [hm, hf]
    exact hdropped rfl
  · rintro ms steps rfl
    obtain ⟨answers, m', f', hm, -, hadded, -⟩ := halike.transaction ms steps true hstep
    rw [hm]
    exact ⟨answers, rfl, hadded rfl⟩

/-! ## Errands -/

/-- The first day of the script below. -/
def errandDay : Day := .ofParts 2024 1 1

/-- The last day of the script below. -/
def errandEnd : Day := .ofParts 2024 1 3

/-- An insert, a day for it and one for nobody, and an insert that is dropped. -/
def errands : List StoreStep :=
  [.transaction 100 [.maxId, .insert "disk" "full" errandDay, .load "disk" none] true,
    .touch 0 errandEnd, .touch 7 errandEnd,
    .transaction 100 [.insert "disk" "lost" errandDay, .load "disk" (some 0)] false,
    .loadAll]

theorem memory_and_file_answer_alike_errands :
    (∀ earlier, earlier <+: errands →
      ClusterDocument.ReadsBack (StoreStep.runAll earlier ({} : MemoryStore)).2.clusters) ∧
    (StoreStep.runAll errands ({ lockTimeoutMs := 100 } : FileStore)).1 =
      [.ended [.greatest (.ok none), .inserted (.ok 0),
          .clusters (.ok [⟨0, "disk", "full", errandDay⟩])] (.ok ()),
        .touched (.ok ()), .touched (.error (.unknownCluster 7)),
        .ended [.inserted (.ok 1), .clusters (.ok [⟨1, "disk", "lost", errandDay⟩])] (.ok ()),
        .clusters (.ok [⟨0, "disk", "full", errandEnd⟩])] := by
  have hstored : ∀ earlier ∈ errands.inits,
      (StoreStep.runAll earlier ({} : MemoryStore)).2.clusters ∈
        [[], [⟨0, "disk", "full", errandDay⟩], [⟨0, "disk", "full", errandEnd⟩]] := by
    decide +kernel
  have hdocuments : ∀ cs ∈ ([[], [⟨0, "disk", "full", errandDay⟩],
      [⟨0, "disk", "full", errandEnd⟩]] : List (List TextCluster)),
      ClusterDocument.ReadsBack cs := by
    decide +kernel
  have hback : ∀ earlier, earlier <+: errands →
      ClusterDocument.ReadsBack (StoreStep.runAll earlier ({} : MemoryStore)).2.clusters :=
    fun earlier h => hdocuments _ (hstored earlier ((List.mem_inits _ _).2 h))
  refine ⟨hback, (memory_and_file_answer_alike errands 100 hback).1.trans ?_⟩
  decide +kernel

end LogAnomaly
