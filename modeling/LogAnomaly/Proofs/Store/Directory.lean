import LogAnomaly.Proofs.Store.Atomic
import LogAnomaly.Proofs.Store.Document
import LogAnomaly.Proofs.Store.Steady

/-!
# The laws of a store on a directory

A store on a directory keeps the laws that stores in memory keep, so what is proved of lawful stores,
of atomic and of steady ones is proved of it too.

* `DocumentFile.Holds`: the clusters of a document, which are at most one list
  (`DocumentFile.Holds.unique`);
* `FileStore.lock_eq_ok`, `FileStore.replaceClusters_cases`, `FileStore.touchLocked_cases`: what the
  steps of an operation do to the document and to the lock;
* `FileStore.lawful`, `FileStore.atomic`: the laws;
* `FileStore.steady`: a directory that nobody else uses is ready if its document can be read and
  replaced, and a cluster more still has a word of 64 bits for its id.
-/

namespace LogAnomaly

open ClusterStore

/-! ## Waiting -/

namespace Backoff

theorem acquireFrom_eq_error {α : Type} {timeout index waited pause : Nat} {extra : Nat → Nat}
    {found : Attempt α} {e : StoreFault}
    (h : (acquireFrom timeout (fun _ => found) extra index waited pause).result = .error e) :
    (∃ ms, e = .lockTimeout ms) ∨ found = .failed e := by
  fun_induction acquireFrom timeout (fun _ => found) extra index waited pause with
  | case1 => cases h
  | case2 _ _ _ error hfound =>
    cases h
    exact .inr hfound
  | case3 =>
    cases h
    exact .inl ⟨_, rfl⟩
  | case4 index waited pause hbusy asked hasked later ih => exact ih h

/-- Whoever does not get a lock has waited for it in vain or has failed. -/
theorem acquireNow_eq_error {α : Type} {ms : Nat} {found : Attempt α} {e : StoreFault}
    (h : acquireNow ms found = .error e) : (∃ waited, e = .lockTimeout waited) ∨ found = .failed e :=
  acquireFrom_eq_error h

end Backoff

/-! ## Documents -/

/-- The clusters of a document: those that it was written for or that are read from it. An id that
is no word of 64 bits can be written, but not read. -/
def DocumentFile.Holds (clusters : List TextCluster) : DocumentFile → Prop
  | .absent => clusters = []
  | .text content =>
    ClusterDocument.read? content = some clusters ∨ content = ClusterDocument.write clusters
  | .blocked => False

theorem DocumentFile.Holds.unique {document : DocumentFile} {cs ds : List TextCluster}
    (h : document.Holds cs) (h' : document.Holds ds) : cs = ds := by
  cases document with
  | absent => exact h.trans h'.symm
  | blocked => exact h.elim
  | text content =>
    rcases h with hread | rfl <;> rcases h' with hread' | hwrite'
    · exact Option.some.inj (hread.symm.trans hread')
    · exact ClusterDocument.read?_write_eq_some (hwrite' ▸ hread)
    · exact (ClusterDocument.read?_write_eq_some hread').symm
    · exact ClusterDocument.write_injective hwrite'

namespace FileStore

variable {s s' : FileStore} {cs ds : List TextCluster}

/-- The store with a document of the given clusters. -/
def written (cs : List TextCluster) (s : FileStore) : FileStore :=
  { s with directory := { s.directory with document := .text (ClusterDocument.write cs) } }

theorem holds_written (cs : List TextCluster) (s : FileStore) :
    (s.written cs).directory.document.Holds cs := .inr rfl

/-- What is read are the clusters of the document. -/
theorem eq_of_readClusters (h : s.directory.document.Holds cs) (hread : s.readClusters = .ok ds) :
    ds = cs := by
  unfold readClusters at hread
  cases hdocument : s.directory.document with
  | absent =>
    simp only [hdocument] at h hread
    rw [h, Except.ok.inj hread]
  | blocked =>
    rw [hdocument] at h
    exact h.elim
  | text content =>
    simp only [hdocument] at h hread
    split at hread
    · rename_i found hfound
      obtain rfl := Except.ok.inj hread
      have hholds : (DocumentFile.text content).Holds found := .inl hfound
      exact hholds.unique h
    · cases hread

/-! ## Steps -/

@[simp] theorem readClusters_setLock (lock : FileLock) (s : FileStore) :
    (s.setLock lock).readClusters = s.readClusters := by
  unfold setLock
  split <;> rfl

@[simp] theorem document_setLock (lock : FileLock) (s : FileStore) :
    (s.setLock lock).directory.document = s.directory.document := by
  unfold setLock
  split <;> rfl

/-- Taking a free lock and giving it back changes nothing. -/
theorem setLock_setLock_free (h : s.directory.lock = .free) :
    (s.setLock .held).setLock .free = s := by
  obtain ⟨⟨document, lock, tempBlocked⟩, lockTimeoutMs⟩ := s
  obtain rfl : lock = .free := h
  rfl

theorem lock_free (h : s.directory.lock = .free) (ms : Nat) :
    s.lock ms = (.ok (), s.setLock .held) := by
  unfold lock attempt Backoff.acquireNow Backoff.acquire
  rw [h, Backoff.acquireFrom]

theorem touch_eq (h : s.directory.lock = .free) (id : Nat) (day : Day) :
    s.touch id day = (((s.setLock .held).touchLocked id day).1,
      ((s.setLock .held).touchLocked id day).2.setLock .free) := by
  rw [touch, lock_free h]

theorem lock_eq_ok {ms : Nat} (h : s.lock ms = (.ok (), s')) :
    s.directory.lock = .free ∧ s' = s.setLock .held := by
  unfold lock at h
  split at h
  · rename_i hfound
    have hattempt := Backoff.acquireNow_eq_ok hfound
    cases h
    refine ⟨?_, rfl⟩
    unfold attempt at hattempt
    split at hattempt
    · assumption
    · cases hattempt
    · cases hattempt
  · cases h

theorem lock_eq_error {ms : Nat} {e : StoreFault} (h : s.lock ms = (.error e, s')) :
    s' = s ∧ ∀ id, e ≠ .unknownCluster id := by
  unfold lock at h
  split at h
  · cases h
  · rename_i hfailed
    cases h
    refine ⟨rfl, ?_⟩
    rcases Backoff.acquireNow_eq_error hfailed with ⟨waited, rfl⟩ | hattempt
    · exact nofun
    · unfold attempt at hattempt
      split at hattempt <;> cases hattempt
      exact nofun

theorem readClusters_eq_error {e : StoreFault} (h : s.readClusters = .error e) (id : Nat) :
    e ≠ .unknownCluster id := by
  unfold readClusters at h
  split at h
  · cases h
  · cases h
    exact nofun
  · split at h <;> cases h
    exact nofun

/-- The document is replaced, or nothing is changed. -/
theorem replaceClusters_cases (cs : List TextCluster) (s : FileStore) :
    s.replaceClusters cs = (.ok (), s.written cs) ∨ s.replaceClusters cs = (.error .io, s) := by
  unfold replaceClusters
  split
  · exact .inr rfl
  · exact .inl rfl

/-- A cluster is found if a day can be recorded for it. If the day is not later, there is nothing
to record. -/
theorem findCluster?_of_touchFirst {id : Nat} {day : Day} {touched : List TextCluster}
    (h : touchFirst id day cs = some touched) :
    ∃ c, findCluster? id cs = some c ∧ (¬ c.lastObserved < day → touched = cs) := by
  induction cs generalizing touched with
  | nil => cases h
  | cons c cs ih =>
    rw [touchFirst] at h
    split at h
    · rename_i hid
      obtain rfl := Option.some.inj h
      refine ⟨c, by simp [findCluster?, hid], fun hlater => ?_⟩
      exact congrArg (· :: cs) (TextCluster.observedOn_eq_self hlater)
    · rename_i hid
      obtain ⟨rest, hrest, rfl⟩ := Option.map_eq_some_iff.1 h
      obtain ⟨d, hd, hsame⟩ := ih hrest
      refine ⟨d, by simpa [findCluster?, hid] using hd, fun hlater => ?_⟩
      rw [hsame hlater]

theorem findCluster?_of_touchFirst_none {id : Nat} {day : Day}
    (h : touchFirst id day cs = none) : findCluster? id cs = none := by
  simpa [findCluster?] using touchFirst_eq_none_iff.1 h

/-- Under the lock a day is recorded for a cluster of the document, or nothing is changed. -/
theorem touchLocked_cases (id : Nat) (day : Day) (s : FileStore) :
    (∃ cs touched, s.readClusters = .ok cs ∧ touchFirst id day cs = some touched ∧
      (s.touchLocked id day = s.replaceClusters touched ∨
        touched = cs ∧ s.touchLocked id day = (.ok (), s))) ∨
    (∃ cs, s.readClusters = .ok cs ∧ touchFirst id day cs = none ∧
      s.touchLocked id day = (.error (.unknownCluster id), s)) ∨
    ∃ e, s.readClusters = .error e ∧ s.touchLocked id day = (.error e, s) := by
  unfold touchLocked
  cases hread : s.readClusters with
  | error e => exact .inr (.inr ⟨e, rfl, rfl⟩)
  | ok cs =>
    cases ht : touchFirst id day cs with
    | none =>
      refine .inr (.inl ⟨cs, rfl, ht, ?_⟩)
      simp only [findCluster?_of_touchFirst_none ht]
    | some touched =>
      obtain ⟨c, hc, hsame⟩ := findCluster?_of_touchFirst ht
      refine .inl ⟨cs, touched, rfl, ht, ?_⟩
      simp only [hc, ht]
      by_cases hlater : c.lastObserved < day
      · exact .inl (if_pos hlater)
      · exact .inr ⟨hsame hlater, if_neg hlater⟩

/-- A day is recorded for a cluster of the document, or the store is left as it was but for its
lock. Only an id that is not there is unknown. -/
theorem touch_cases (id : Nat) (day : Day) (s : FileStore) :
    (∃ cs touched, s.readClusters = .ok cs ∧ touchFirst id day cs = some touched ∧
      ∃ t, s.touch id day = (.ok (), t) ∧
        (t.directory.document = .text (ClusterDocument.write touched) ∨
          touched = cs ∧ t.directory.document = s.directory.document)) ∨
    ∃ e t, s.touch id day = (.error e, t) ∧ t.directory.document = s.directory.document ∧
      ∀ n, e = .unknownCluster n → ∃ cs, s.readClusters = .ok cs ∧ touchFirst id day cs = none := by
  cases hlock : s.lock s.lockTimeoutMs with
  | mk result t =>
    cases result with
    | error e =>
      obtain ⟨rfl, hknown⟩ := lock_eq_error hlock
      exact .inr ⟨e, t, by rw [touch, hlock], rfl, fun n he => absurd he (hknown n)⟩
    | ok _ =>
      obtain ⟨hfree, -⟩ := lock_eq_ok hlock
      rw [touch_eq hfree]
      have hlocked := touchLocked_cases id day (s.setLock .held)
      rw [readClusters_setLock] at hlocked
      rcases hlocked with ⟨cs, touched, hread, ht, hdone | ⟨hsame, hdone⟩⟩ | ⟨cs, hread, ht, hdone⟩ |
        ⟨e, hread, hdone⟩
      · rw [hdone]
        rcases replaceClusters_cases touched (s.setLock .held) with hreplaced | hfailed
        · rw [hreplaced]
          exact .inl ⟨cs, touched, hread, ht, _, rfl, .inl (document_setLock ..)⟩
        · rw [hfailed]
          exact .inr ⟨_, _, rfl, by simp, nofun⟩
      · rw [hdone]
        exact .inl ⟨cs, touched, hread, ht, _, rfl, .inr ⟨hsame, by simp⟩⟩
      · rw [hdone]
        exact .inr ⟨_, _, rfl, by simp, fun _ _ => ⟨cs, hread, ht⟩⟩
      · rw [hdone]
        exact .inr ⟨_, _, rfl, by simp, fun n he => absurd he (readClusters_eq_error hread n)⟩

/-- A transaction begins with a copy of the document, under the lock; otherwise nothing is
changed. -/
theorem acquire_cases (ms : Nat) (s : FileStore) :
    (∃ cs, s.directory.lock = .free ∧ s.readClusters = .ok cs ∧
      s.acquire ms = (.ok { clusters := cs }, s.setLock .held)) ∨
    ∃ e, s.acquire ms = (.error e, s) := by
  unfold acquire
  cases hlock : s.lock ms with
  | mk result t =>
    cases result with
    | error e =>
      obtain ⟨rfl, -⟩ := lock_eq_error hlock
      exact .inr ⟨e, rfl⟩
    | ok _ =>
      obtain ⟨hfree, rfl⟩ := lock_eq_ok hlock
      simp only [readClusters_setLock]
      cases hread : s.readClusters with
      | ok cs => exact .inl ⟨cs, hfree, rfl, rfl⟩
      | error e =>
        simp only [setLock_setLock_free hfree]
        exact .inr ⟨e, rfl⟩

/-- The copy of a transaction replaces the document if it has inserts; if that fails, only the lock
is given back. -/
theorem commit_cases (txn : Txn) (s : FileStore) :
    (commit txn s = (.ok (), (if txn.changed then s.written txn.clusters else s).setLock .free)) ∨
      txn.changed = true ∧ commit txn s = (.error .io, s.setLock .free) := by
  unfold commit
  cases hchanged : txn.changed with
  | false => exact .inl rfl
  | true =>
    simp only [if_true]
    rcases replaceClusters_cases txn.clusters s with hreplaced | hfailed
    · rw [hreplaced]
      exact .inl rfl
    · rw [hfailed]
      exact .inr ⟨trivial, rfl⟩

/-! ## The laws -/

instance lawful : LawfulStore FileStore where
  Holds cs s := s.directory.document.Holds cs
  Staged cs new txn s := s.directory.document.Holds cs ∧ txn = ⟨cs ++ new, !new.isEmpty⟩
  holds_unique := DocumentFile.Holds.unique
  loadAll_ok {cs loaded s} h hload := by
    replace hload : s.loadAll = .ok loaded := hload
    unfold loadAll at hload
    cases hread : s.readClusters with
    | error e =>
      rw [hread] at hload
      cases hload
    | ok found =>
      rw [hread] at hload
      obtain rfl := Except.ok.inj hload
      rw [eq_of_readClusters h hread]
      exact List.mergeSort_perm ..
  touch_ok {cs id day s s'} h ht := by
    rcases touch_cases id day s with
      ⟨found, touched, hread, htouched, t, hdone, hafter⟩ | ⟨e, t, hdone, -⟩
    · cases hdone.symm.trans ht
      obtain rfl := eq_of_readClusters h hread
      refine ⟨touched, htouched, ?_⟩
      rcases hafter with hwritten | ⟨rfl, hsame⟩
      · rw [hwritten]
        exact .inr rfl
      · rwa [hsame]
    · cases hdone.symm.trans ht
  touch_error {cs id day e s s'} h ht := by
    rcases touch_cases id day s with ⟨-, -, -, -, t, hdone, -⟩ | ⟨e, t, hdone, hsame, -⟩
    · cases hdone.symm.trans ht
    · cases hdone.symm.trans ht
      rwa [hsame]
  touch_unknown {cs id n day s s'} h ht := by
    rcases touch_cases id day s with ⟨-, -, -, -, t, hdone, -⟩ | ⟨e, t, hdone, -, hunknown⟩
    · cases hdone.symm.trans ht
    · cases hdone.symm.trans ht
      obtain ⟨found, hread, hnone⟩ := hunknown n rfl
      rwa [eq_of_readClusters h hread] at hnone
  acquire_ok {cs ms txn s s'} h ha := by
    rcases acquire_cases ms s with ⟨found, -, hread, hdone⟩ | ⟨e, hdone⟩
    · cases hdone.symm.trans ha
      rw [document_setLock, eq_of_readClusters h hread, List.append_nil]
      exact ⟨h, rfl⟩
    · cases hdone.symm.trans ha
  acquire_error {cs ms e s s'} h ha := by
    rcases acquire_cases ms s with ⟨found, -, -, hdone⟩ | ⟨e, hdone⟩
    · cases hdone.symm.trans ha
    · cases hdone.symm.trans ha
      exact h
  txnMaxId_ok h hmax := by
    obtain ⟨-, rfl⟩ := h
    exact (Except.ok.inj hmax).symm
  txnLoad_ok h hload := by
    obtain ⟨-, rfl⟩ := h
    exact (Except.ok.inj hload).symm
  txnInsert_ok {cs new component text day id txn txn' s s'} h hins := by
    obtain ⟨hholds, rfl⟩ := h
    cases hins
    refine ⟨rfl, hholds, ?_⟩
    rw [← List.append_assoc]
    cases new <;> rfl
  txnInsert_error _ hins := by cases hins
  commit_ok {cs new txn s s'} h hc := by
    obtain ⟨hholds, rfl⟩ := h
    rcases commit_cases ⟨cs ++ new, !new.isEmpty⟩ s with hdone | ⟨-, hdone⟩
    · cases hdone.symm.trans hc
      rw [document_setLock]
      split
      · exact holds_written ..
      · rename_i hnone
        obtain rfl : new = [] := by simpa using hnone
        rwa [List.append_nil]
    · cases hdone.symm.trans hc
  commit_error {cs new e txn s s'} h hc := by
    rcases commit_cases txn s with hdone | ⟨-, hdone⟩
    · cases hdone.symm.trans hc
    · cases hdone.symm.trans hc
      rw [document_setLock]
      exact h.1
  rollback_holds {cs new txn s} h := by
    show (s.setLock .free).directory.document.Holds cs
    rw [document_setLock]
    exact h.1

instance atomic : AtomicStore FileStore where
  Free s := s.directory.lock = .free
  Began s _ s' := s.directory.lock = .free ∧ s' = s.setLock .held
  acquire_began {cs ms txn s s'} _ ha := by
    rcases acquire_cases ms s with ⟨found, hfree, -, hdone⟩ | ⟨e, hdone⟩
    · cases hdone.symm.trans ha
      exact ⟨hfree, hfree, rfl⟩
    · cases hdone.symm.trans ha
  acquire_failed {cs ms e s s'} _ ha := by
    rcases acquire_cases ms s with ⟨found, -, -, hdone⟩ | ⟨e, hdone⟩ <;> cases hdone.symm.trans ha
    rfl
  insert_began h hins := by
    cases hins
    exact h
  insert_failed _ hins := by cases hins
  commit_failed {e txn s s' t} h hc := by
    obtain ⟨hfree, rfl⟩ := h
    rcases commit_cases txn (s.setLock .held) with hdone | ⟨-, hdone⟩ <;> cases hdone.symm.trans hc
    exact setLock_setLock_free hfree
  rollback_eq h := by
    obtain ⟨hfree, rfl⟩ := h
    exact setLock_setLock_free hfree
  commit_unchanged {cs ms txn s s' t} _ ha hc := by
    rcases acquire_cases ms s with ⟨found, hfree, -, hdone⟩ | ⟨e, hdone⟩
    · cases hdone.symm.trans ha
      cases hc
      exact setLock_setLock_free hfree
    · cases hdone.symm.trans ha

/-! ## Nobody else -/

/-- What is written is read, as long as all ids are words. -/
theorem readClusters_written {n : Nat} (h : idRank (greatestId cs) + n ≤ wordCount)
    (s : FileStore) : (s.written cs).readClusters = .ok cs := by
  have hids : ∀ c ∈ cs, c.id ≤ maxWord := fun c hc => by
    have := id_lt_greatestId hc
    unfold wordCount at h
    unfold maxWord
    omega
  simp only [readClusters, written, ClusterDocument.read?_write hids]

/-- Under the lock the document is replaced, and then the lock is given back. -/
theorem replaceClusters_locked (hfree : s.directory.lock = .free)
    (hwritable : s.directory.tempBlocked = false) (hreads : s.readClusters = .ok cs)
    (replacement : List TextCluster) :
    ∃ t, (s.setLock .held).replaceClusters replacement = (.ok (), t) ∧
      t.setLock .free = s.written replacement := by
  obtain ⟨⟨document, lock, tempBlocked⟩, lockTimeoutMs⟩ := s
  obtain rfl : lock = .free := hfree
  obtain rfl : tempBlocked = false := hwritable
  cases document with
  | blocked => cases hreads
  | absent | text => exact ⟨_, rfl, rfl⟩

theorem acquire_free (hfree : s.directory.lock = .free) (hreads : s.readClusters = .ok cs)
    (ms : Nat) : s.acquire ms = (.ok { clusters := cs }, s.setLock .held) := by
  rw [acquire, lock_free hfree]
  simp only [readClusters_setLock, hreads]

/-- A transaction without inserts does not write the document. -/
theorem commit_locked (hfree : s.directory.lock = .free)
    (hwritable : s.directory.tempBlocked = false) (hreads : s.readClusters = .ok cs)
    (txn : Txn) :
    commit txn (s.setLock .held) =
      (.ok (), if txn.changed then s.written txn.clusters else s) := by
  unfold commit
  cases txn.changed with
  | false =>
    show (Except.ok (), (s.setLock .held).setLock .free) = _
    rw [setLock_setLock_free hfree]
    rfl
  | true =>
    obtain ⟨t, ht, hgive⟩ := replaceClusters_locked hfree hwritable hreads txn.clusters
    show (((s.setLock .held).replaceClusters txn.clusters).1,
      ((s.setLock .held).replaceClusters txn.clusters).2.setLock .free) = _
    rw [ht, hgive]
    rfl

/-- A day is recorded for a cluster that is there; if it is not a later one, nothing is written. -/
theorem touch_found (hfree : s.directory.lock = .free)
    (hwritable : s.directory.tempBlocked = false) (hreads : s.readClusters = .ok cs) {id : Nat}
    {day : Day} {touched : List TextCluster} (ht : touchFirst id day cs = some touched) :
    s.touch id day = (.ok (), s.written touched) ∨
      touched = cs ∧ s.touch id day = (.ok (), s) := by
  rw [touch_eq hfree]
  have hlocked := touchLocked_cases id day (s.setLock .held)
  rw [readClusters_setLock, hreads] at hlocked
  rcases hlocked with ⟨found, touched', hfound, ht', hdone⟩ | ⟨found, hfound, hnone, -⟩ |
    ⟨e, herror, -⟩
  · obtain rfl := Except.ok.inj hfound
    obtain rfl := Option.some.inj (ht.symm.trans ht')
    rcases hdone with hdone | ⟨hsame, hdone⟩
    · obtain ⟨t, hreplaced, hgive⟩ := replaceClusters_locked hfree hwritable hreads touched
      rw [hdone, hreplaced]
      exact .inl (congrArg (Prod.mk _) hgive)
    · rw [hdone]
      exact .inr ⟨hsame, congrArg (Prod.mk _) (setLock_setLock_free hfree)⟩
  · obtain rfl := Except.ok.inj hfound
    rw [ht] at hnone
    cases hnone
  · cases herror

theorem touch_missing (hfree : s.directory.lock = .free) (hreads : s.readClusters = .ok cs)
    {id : Nat} {day : Day} (ht : touchFirst id day cs = none) :
    s.touch id day = (.error (.unknownCluster id), s) := by
  have hlocked : (s.setLock .held).touchLocked id day =
      (.error (.unknownCluster id), s.setLock .held) := by
    rw [touchLocked, readClusters_setLock, hreads]
    simp only [findCluster?_of_touchFirst_none ht]
  rw [touch_eq hfree, hlocked]
  exact congrArg (Prod.mk _) (setLock_setLock_free hfree)

/-- A directory that can be read and written, with words for the ids of so many more clusters. -/
structure ReadyFor (n : Nat) (cs : List TextCluster) (s : FileStore) : Prop where
  free : s.directory.lock = .free
  writable : s.directory.tempBlocked = false
  reads : s.readClusters = .ok cs
  room : idRank (greatestId cs) + n ≤ wordCount

theorem ReadyFor.written {n m : Nat} (h : s.ReadyFor n cs)
    (hroom : idRank (greatestId ds) + m ≤ wordCount) : (s.written ds).ReadyFor m ds :=
  ⟨h.free, h.writable, readClusters_written hroom s, hroom⟩

instance steady : SteadyStore FileStore where
  Ready n s := ∃ cs, s.ReadyFor n cs
  Open n txn s := ∃ (t : FileStore) (cs : List TextCluster), s = t.setLock .held ∧ t.ReadyFor 0 cs ∧
    idRank (greatestId txn.clusters) + n ≤ wordCount ∧ (txn.changed = false → txn.clusters = cs)
  ready_of_le hle := fun ⟨cs, h⟩ =>
    ⟨cs, h.free, h.writable, h.reads, Nat.le_trans (Nat.add_le_add_left hle _) h.room⟩
  loadAll_ready {n s} h := by
    obtain ⟨cs, h⟩ := h
    refine ⟨cs.mergeSort fun a b => a.id ≤ b.id, ?_⟩
    show s.loadAll = _
    rw [loadAll, h.reads]
    rfl
  touch_ready {n found cs' id day s} h hs ht := by
    obtain ⟨cs, h⟩ := h
    obtain rfl := eq_of_readClusters hs h.reads
    rcases touch_found h.free h.writable h.reads ht with hdone | ⟨rfl, hdone⟩
    · have hids : idRank (greatestId cs') ≤ idRank (greatestId cs) :=
        (Grows.of_map_identity (map_identity_touchFirst ht).symm).greatestId_le
      exact ⟨_, hdone, cs', h.written (Nat.le_trans (Nat.add_le_add_right hids n) h.room)⟩
    · exact ⟨s, hdone, _, h⟩
  acquire_ready {n s} ms h := by
    obtain ⟨cs, h⟩ := h
    refine ⟨_, _, acquire_free h.free h.reads ms, s, cs, rfl, ⟨h.free, h.writable, h.reads, ?_⟩,
      h.room, fun _ => rfl⟩
    exact Nat.le_trans (Nat.le_add_right _ n) h.room
  txnMaxId_open _ := ⟨_, rfl⟩
  txnLoad_open _ _ _ := ⟨_, rfl⟩
  txnInsert_open {n txn s} component text day h := by
    obtain ⟨t, cs, rfl, h, hroom, -⟩ := h
    refine ⟨_, _, _, rfl, t, cs, rfl, h, ?_, nofun⟩
    show idRank (greatestId (txn.clusters ++ [newCluster (greatestId txn.clusters) component text
      day])) + n ≤ wordCount
    rw [idRank_greatestId_concat]
    omega
  commit_open {n txn s} h := by
    obtain ⟨t, cs, rfl, h, hroom, hcopy⟩ := h
    refine ⟨_, commit_locked h.free h.writable h.reads txn, ?_⟩
    cases hchanged : txn.changed with
    | false =>
      obtain rfl := hcopy hchanged
      exact ⟨_, h.free, h.writable, h.reads, hroom⟩
    | true => exact ⟨_, h.written hroom⟩

/-- An empty directory holds no clusters and has all words for ids. -/
theorem holds_and_ready_empty (lockTimeoutMs : Nat) :
    LawfulStore.Holds [] ({ lockTimeoutMs } : FileStore) ∧
      SteadyStore.Ready wordCount ({ lockTimeoutMs } : FileStore) :=
  ⟨rfl, [], rfl, rfl, rfl, Nat.le_of_eq (Nat.zero_add _)⟩

end FileStore

end LogAnomaly
