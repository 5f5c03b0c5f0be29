import LogAnomaly.Proofs.Cluster.Transaction
import LogAnomaly.Proofs.Store.Atomic
import LogAnomaly.Proofs.Store.Steady

/-!
# Calls that fail under the lock

* `CountedModel.Fails`: an operation under the lock fails. There are six places where one can;
* `Fails.transact_eq`: the call ends with the error of the operation and leaves the store as it was.
  The model is as it was too, or it has caught up with the store;
* `placeShared_caughtUp`: a model that has caught up in vain does on the next try what it would have
  done without. A cluster of another writer, which the transaction would have found behind the known
  ones, is then found by the search before it.
-/

namespace LogAnomaly

open ClusterStore LawfulStore AtomicStore SteadyStore

/-! ## Searching behind clusters that are not close -/

theorem extractFirst_append {α : Type} {p : α → Bool} {l : List α} (h : ∀ a ∈ l, p a = false)
    (l' : List α) :
    extractFirst p (l ++ l') = (extractFirst p l').map fun (a, rest) => (a, l ++ rest) := by
  induction l with
  | nil => simp
  | cons b l ih =>
    have hb : p b = false := h b List.mem_cons_self
    rw [List.cons_append, extractFirst, hb, ih fun a ha => h a (List.mem_cons_of_mem _ ha)]
    simp [Function.comp_def]

/-- A search may start behind clusters that are not close. -/
theorem ComponentModel.matchAfter?_zero {m : ComponentModel} {n : Nat} {o : Observation}
    (h : ∀ e ∈ m.entries.take n, m.rules.accepts e.fingerprint o.fingerprint = false) :
    m.matchAfter? 0 o = m.matchAfter? n o := by
  have happ := extractFirst_append h (m.entries.drop n)
  rw [List.take_append_drop] at happ
  rw [matchAfter?, matchAfter?, List.drop_zero, happ, Option.map_map]
  rfl

namespace CountedModel

/-- There is nothing behind the last cluster. -/
theorem matchAfter?_all (w : CountedModel) (o : Observation) :
    w.model.matchAfter? w.model.entries.length o = none := by
  rw [ComponentModel.matchAfter?_eq_none_iff]
  simp

/-! ## Failures -/

section Fails

variable {σ : Type} [ClusterStore σ]

/-- The model after it has caught up in an open transaction. -/
inductive Refreshed (w : CountedModel) (txn : Txn σ) (s : σ) : CountedModel → Prop where
  | upToDate {storeMax : Option Nat} :
      txnMaxId txn s = .ok storeMax → ¬ idRank w.model.knownUpTo < idRank storeMax →
        Refreshed w txn s w
  | merged {storeMax : Option Nat} {fresh : List TextCluster} :
      txnMaxId txn s = .ok storeMax → idRank w.model.knownUpTo < idRank storeMax →
      txnLoad w.model.component w.model.knownUpTo txn s = .ok fresh →
        Refreshed w txn s
          { w.merge fresh with model := (w.merge fresh).model.catchUpTo storeMax }

/-- An operation under the lock fails. -/
inductive Fails (o : Observation) (w : CountedModel) (s : σ) : StoreOperation → StoreFault → Prop
  where
  | lock {e : StoreFault} {s' : σ} :
      acquire w.model.rules.lockTimeoutMs s = (.error e, s') → Fails o w s .lock e
  | readMaxId {txn : Txn σ} {e : StoreFault} {s' : σ} :
      acquire w.model.rules.lockTimeoutMs s = (.ok txn, s') → txnMaxId txn s' = .error e →
        Fails o w s .readMaxId e
  | catchUp {txn : Txn σ} {storeMax : Option Nat} {e : StoreFault} {s' : σ} :
      acquire w.model.rules.lockTimeoutMs s = (.ok txn, s') → txnMaxId txn s' = .ok storeMax →
      idRank w.model.knownUpTo < idRank storeMax →
      txnLoad w.model.component w.model.knownUpTo txn s' = .error e → Fails o w s .catchUp e
  /-- The commit of a transaction that has found a cluster. -/
  | commitFound {txn : Txn σ} {w' : CountedModel} {found : Placement × ComponentModel}
      {e : StoreFault} {s' t : σ} :
      acquire w.model.rules.lockTimeoutMs s = (.ok txn, s') → w.Refreshed txn s' w' →
      w'.model.matchAfter? w.model.entries.length o = some found →
      commit txn s' = (.error e, t) → Fails o w s .commit e
  | insert {txn : Txn σ} {w' : CountedModel} {e : StoreFault} {s' t : σ} :
      acquire w.model.rules.lockTimeoutMs s = (.ok txn, s') → w.Refreshed txn s' w' →
      w'.model.matchAfter? w.model.entries.length o = none →
      txnInsert w.model.component o.text o.day txn s' = (.error e, t) → Fails o w s .insert e
  /-- The commit of a transaction that has inserted a cluster. -/
  | commitMade {txn txn' : Txn σ} {w' : CountedModel} {id : Nat} {e : StoreFault} {s' t u : σ} :
      acquire w.model.rules.lockTimeoutMs s = (.ok txn, s') → w.Refreshed txn s' w' →
      w'.model.matchAfter? w.model.entries.length o = none →
      txnInsert w.model.component o.text o.day txn s' = (.ok (id, txn'), t) →
      commit txn' t = (.error e, u) → Fails o w s .commit e

/-- Where nothing fails, a transaction is open and the model has caught up. -/
theorem exists_refreshed {w : CountedModel} {o : Observation} {s : σ}
    (hok : ∀ operation e, ¬ w.Fails o s operation e) :
    ∃ txn s' w', acquire w.model.rules.lockTimeoutMs s = (.ok txn, s') ∧
      w.Refreshed txn s' w' := by
  rcases ha : acquire w.model.rules.lockTimeoutMs s with ⟨e | txn, s'⟩
  · exact absurd (.lock ha) (hok _ e)
  · cases hmax : txnMaxId txn s' with
    | error e => exact absurd (.readMaxId ha hmax) (hok _ e)
    | ok storeMax =>
      by_cases hlt : idRank w.model.knownUpTo < idRank storeMax
      · cases hload : txnLoad w.model.component w.model.knownUpTo txn s' with
        | error e => exact absurd (.catchUp ha hmax hlt hload) (hok _ e)
        | ok fresh => exact ⟨txn, s', _, rfl, .merged hmax hlt hload⟩
      · exact ⟨txn, s', w, rfl, .upToDate hmax hlt⟩

end Fails

section Lawful

variable {σ : Type} [ClusterStore σ] [LawfulStore σ] {stored : List TextCluster}
  {w w' : CountedModel} {o : Observation} {txn : Txn σ} {s s' : σ}

/-- What a transaction does after the model has caught up. -/
theorem Refreshed.transact_eq (hr : w.Refreshed txn s' w') (hs : Holds stored s)
    (ha : acquire w.model.rules.lockTimeoutMs s = (.ok txn, s')) (o : Observation) :
    w' = w.caughtUp stored ∧
      w.transact o s =
        match w'.model.matchAfter? w.model.entries.length o with
        | none => w'.insert o txn s'
        | some (p, m) =>
          match commit txn s' with
          | (.error e, s) => (.error (w'.failure .commit e), w', s)
          | (.ok (), s) => (.ok p, { w' with model := m }, s) := by
  have hs' := acquire_ok hs ha
  cases hr with
  | @upToDate storeMax hmax hle =>
    obtain rfl := txnMaxId_ok hs' hmax
    rw [List.append_nil] at hle hmax
    refine ⟨(caughtUp_eq_self (Nat.not_lt.1 hle)).symm, ?_⟩
    rw [w.matchAfter?_all, transact, ha]
    simp only [hmax, if_neg hle]
  | @merged storeMax fresh hmax hlt hload =>
    obtain rfl := txnMaxId_ok hs' hmax
    obtain rfl := txnLoad_ok hs' hload
    rw [List.append_nil] at hlt hmax hload ⊢
    refine ⟨rfl, ?_⟩
    rw [transact, ha]
    simp only [hmax, if_pos hlt]
    exact catchUp_eq hload

variable [AtomicStore σ]

/-- A call whose transaction fails ends with the error of the operation and leaves the store as it
was, with the lock free unless it is the lock that failed. The model is as it was, or it has caught
up. A cluster that is close is known to it only if the commit has failed. -/
theorem Fails.transact_eq {operation : StoreOperation} {e : StoreFault}
    (h : w.Fails o s operation e) (hs : Holds stored s) (hw : w.model.Follows stored) :
    ∃ w', w.transact o s = (.error (.store w.model.component operation e), w', s) ∧
      (w' = w ∨ w' = w.caughtUp stored) ∧ (operation ≠ .lock → Free s) ∧
      (operation ≠ .commit → w'.model.matchAfter? w.model.entries.length o = none) := by
  cases h with
  | @lock e s' ha =>
    obtain rfl := acquire_failed hs ha
    refine ⟨w, ?_, .inl rfl, fun h => absurd rfl h, fun _ => w.matchAfter?_all o⟩
    rw [transact, ha]
    rfl
  | @readMaxId txn e s' ha hmax =>
    obtain ⟨hfree, hbegan⟩ := acquire_began hs ha
    refine ⟨w, ?_, .inl rfl, fun _ => hfree, fun _ => w.matchAfter?_all o⟩
    rw [transact, ha]
    simp only [hmax, rollback_eq hbegan]
    rfl
  | @catchUp txn storeMax e s' ha hmax hlt hload =>
    obtain ⟨hfree, hbegan⟩ := acquire_began hs ha
    refine ⟨w, ?_, .inl rfl, fun _ => hfree, fun _ => w.matchAfter?_all o⟩
    rw [transact, ha]
    simp only [hmax, if_pos hlt, CountedModel.catchUp, hload, rollback_eq hbegan]
    rfl
  | @commitFound txn w' found e s' t ha hr hfound hcommit =>
    obtain ⟨hfree, hbegan⟩ := acquire_began hs ha
    obtain ⟨rfl, htransact⟩ := hr.transact_eq hs ha o
    refine ⟨_, ?_, .inr rfl, fun _ => hfree, fun h => absurd rfl h⟩
    obtain rfl := commit_failed hbegan hcommit
    rw [htransact, hfound]
    simp only [hcommit, CountedModel.failure, caughtUp_component]
  | @insert txn w' e s' t ha hr hnone hinsert =>
    obtain ⟨hfree, hbegan⟩ := acquire_began hs ha
    obtain ⟨rfl, htransact⟩ := hr.transact_eq hs ha o
    refine ⟨_, ?_, .inr rfl, fun _ => hfree, fun _ => hnone⟩
    rw [htransact, hnone]
    simp only [CountedModel.insert, CountedModel.failure, caughtUp_component, hinsert,
      rollback_eq (insert_failed hbegan hinsert)]
  | @commitMade txn txn' w' id e s' t u ha hr hnone hinsert hcommit =>
    obtain ⟨hfree, hbegan⟩ := acquire_began hs ha
    obtain ⟨rfl, htransact⟩ := hr.transact_eq hs ha o
    refine ⟨_, ?_, .inr rfl, fun _ => hfree, fun h => absurd rfl h⟩
    obtain rfl := commit_failed (insert_began hbegan hinsert) hcommit
    obtain ⟨hid, -⟩ := txnInsert_ok (acquire_ok hs ha) hinsert
    -- the store never gives an id that the model knows
    have hnew : (w.caughtUp stored).model.ids.contains id = false := by
      rw [← Bool.not_eq_true, List.contains_iff_mem, hid, List.append_nil]
      exact fun hmem => Nat.lt_irrefl _ ((follows_caughtUp hw).id_lt hmem)
    rw [htransact, hnone]
    simp only [CountedModel.insert, CountedModel.failure, caughtUp_component, hinsert, hnew,
      hcommit, Bool.false_eq_true, if_false]

/-! ## Trying again -/

omit [AtomicStore σ] in
theorem Refreshed.txnMaxId_eq (hr : w.Refreshed txn s' w') (hs : Staged stored [] txn s') :
    txnMaxId txn s' = .ok (greatestId stored) := by
  cases hr with
  | upToDate hmax | merged hmax =>
    rw [hmax, txnMaxId_ok hs hmax, List.append_nil]

/-- A model that has caught up places a text as it would have done without that, if nothing fails.
Only the way to a cluster of another writer is shorter: it takes no transaction. -/
theorem placeShared_caughtUp (hs : Holds stored s) (hmiss : w.model.matchAfter? 0 o = none)
    (hok : ∀ operation e, ¬ w.Fails o s operation e) :
    (w.caughtUp stored).placeShared o s = w.placeShared o s := by
  obtain ⟨txn, s', w', ha, hr⟩ := exists_refreshed hok
  have hs' := acquire_ok hs ha
  have hmax := hr.txnMaxId_eq hs'
  obtain ⟨rfl, htransact⟩ := hr.transact_eq hs ha o
  have hfirst : (w.caughtUp stored).model.matchAfter? 0 o =
      (w.caughtUp stored).model.matchAfter? w.model.entries.length o := by
    refine ComponentModel.matchAfter?_zero fun e he => ?_
    obtain ⟨fresh, hfresh, -⟩ := caughtUp_entries stored w
    rw [hfresh, List.take_left] at he
    rw [caughtUp_rules]
    exact ComponentModel.matchAfter?_eq_none_iff.1 hmiss e he
  rw [placeShared_eq, placeShared_eq, hmiss, hfirst]
  simp only [htransact]
  cases hfound : (w.caughtUp stored).model.matchAfter? w.model.entries.length o with
  | some found =>
    obtain ⟨p, m⟩ := found
    rcases hcommit : commit txn s' with ⟨e | _, t⟩
    · exact absurd (.commitFound ha hr hfound hcommit) (hok _ e)
    · obtain rfl := commit_unchanged hs ha hcommit
      rfl
  | none =>
    -- the model that has caught up has nothing to load
    have hknown : ¬ idRank (w.caughtUp stored).model.knownUpTo < idRank (greatestId stored) :=
      Nat.not_lt.2 (greatestId_le_caughtUp stored w)
    have ha' : acquire (w.caughtUp stored).model.rules.lockTimeoutMs s = (.ok txn, s') := by
      rw [caughtUp_rules]
      exact ha
    obtain ⟨-, htransact'⟩ := (Refreshed.upToDate hmax hknown).transact_eq hs ha' o
    rw [matchAfter?_all] at htransact'
    exact htransact'

omit [AtomicStore σ] in
/-- Nothing fails in a store that is ready for one more cluster. -/
theorem Fails.not_ready [SteadyStore σ] {operation : StoreOperation} {e : StoreFault}
    (h : w.Fails o s operation e) : ¬ Ready 1 s := by
  intro hready
  obtain ⟨txn, s', ha, hopen⟩ := acquire_ready w.model.rules.lockTimeoutMs hready
  cases h with
  | lock ha' => cases ha.symm.trans ha'
  | readMaxId ha' hmax =>
    cases ha.symm.trans ha'
    obtain ⟨greatest, hgreatest⟩ := txnMaxId_open hopen
    cases hgreatest.symm.trans hmax
  | catchUp ha' _ _ hload =>
    cases ha.symm.trans ha'
    obtain ⟨found, hfound⟩ := txnLoad_open w.model.component w.model.knownUpTo hopen
    cases hfound.symm.trans hload
  | commitFound ha' _ _ hcommit =>
    cases ha.symm.trans ha'
    obtain ⟨t, hdone, -⟩ := commit_open hopen
    cases hdone.symm.trans hcommit
  | insert ha' _ _ hinsert =>
    cases ha.symm.trans ha'
    obtain ⟨id, txn', t, hdone, -⟩ := txnInsert_open w.model.component o.text o.day hopen
    cases hdone.symm.trans hinsert
  | commitMade ha' _ _ hinsert hcommit =>
    cases ha.symm.trans ha'
    obtain ⟨id, txn', t, hdone, hopen'⟩ := txnInsert_open w.model.component o.text o.day hopen
    cases hdone.symm.trans hinsert
    obtain ⟨u, hended, -⟩ := commit_open hopen'
    cases hended.symm.trans hcommit

/-- A call that failed can be made again, as if it had not been made before. -/
theorem Fails.addShared_eq {text : String} {time : Instant} {operation : StoreOperation}
    {e : StoreFault} (hs : Holds stored s) (hw : w.model.Follows stored)
    (hmiss : w.model.matchAfter? 0 (w.model.rules.observe text time) = none)
    (h : w.Fails (w.model.rules.observe text time) s operation e) :
    ∃ w', w.addShared text time s =
        (.error (.store w.model.component operation e), w', s) ∧
      (w' = w ∨ w' = w.caughtUp stored) ∧ (operation ≠ .lock → Free s) ∧
      (operation ≠ .commit → w'.model.matchAfter? w.model.entries.length
        (w.model.rules.observe text time) = none) ∧
      ∀ t : σ, Holds stored t →
        (∀ operation e, ¬ w.Fails (w.model.rules.observe text time) t operation e) →
          w'.addShared text time t = w.addShared text time t := by
  obtain ⟨w', htransact, hcases, hfree, hnone⟩ := h.transact_eq hs hw
  refine ⟨w', ?_, hcases, hfree, hnone, fun t ht hok => ?_⟩
  · simp only [addShared, placeShared_eq, hmiss, htransact]
  · rcases hcases with rfl | rfl
    · rfl
    · rw [addShared, caughtUp_rules, placeShared_caughtUp ht hmiss hok]
      rfl

end Lawful

end CountedModel

end LogAnomaly
