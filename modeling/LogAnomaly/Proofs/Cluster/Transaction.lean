import LogAnomaly.Cluster.Shared
import LogAnomaly.Proofs.Cluster.CatchUp
import LogAnomaly.Proofs.Store.Lawful

/-!
# Transactions and recorded days

What the steps of a call do to a lawful store and to the model, whatever the store answers:

* `CountedModel.Transacted`: a transaction fails and leaves the store as it was, or finds a close
  cluster among those of others, or makes a new one (`CountedModel.transact_transacted`);
* `recordDay_cases`: the day of a match is noted, or was known, or the store fails.

A transaction first catches up with the store, also where it reads nothing because the model knows
all: then catching up changes nothing (`caughtUp_eq_self`). So there is one outcome for both.
-/

namespace LogAnomaly

open ClusterStore LawfulStore

namespace CountedModel

/-- The answer of a transaction, the model after it and the clusters of the store after it. -/
inductive Transacted (o : Observation) (w : CountedModel) (stored : List TextCluster) :
    Except AssignmentError Placement → CountedModel → List TextCluster → Prop where
  /-- The store failed, before or after the model had caught up. -/
  | failed {w' : CountedModel} {operation : StoreOperation} {source : StoreFault} :
      operation ≠ .touch → w' = w ∨ w' = w.caughtUp stored →
        Transacted o w stored (.error (.store w.model.component operation source)) w' stored
  /-- A cluster of somebody else is close. -/
  | found {p : Placement} {m : ComponentModel} :
      (w.caughtUp stored).model.matchAfter? w.model.entries.length o = some (p, m) →
        Transacted o w stored (.ok p) { w.caughtUp stored with model := m } stored
  /-- No cluster is close, so there is a new one. -/
  | made :
      (w.caughtUp stored).model.matchAfter? w.model.entries.length o = none →
        Transacted o w stored (.ok ⟨⟨idRank (greatestId stored), .created⟩, false⟩)
          ((w.caughtUp stored).adopt (idRank (greatestId stored)) o)
          (stored ++ [newCluster (greatestId stored) w.model.component o.text o.day])

theorem Transacted.component_eq {o : Observation} {w w' : CountedModel}
    {stored stored' : List TextCluster} {result : Except AssignmentError Placement}
    (h : Transacted o w stored result w' stored') : w'.model.component = w.model.component := by
  cases h with
  | failed _ hw =>
    rcases hw with rfl | rfl
    · rfl
    · exact caughtUp_component ..
  | found hm => exact (ComponentModel.matchAfter?_kept hm).1.trans (caughtUp_component ..)
  | made => exact caughtUp_component ..

variable {σ : Type} [ClusterStore σ] [LawfulStore σ] {stored : List TextCluster}
  {w : CountedModel} {o : Observation} {s : σ}

/-- Inserting a cluster, for a model that follows the store. The store never gives an id that the
model knows. -/
theorem insert_transacted {txn : Txn σ} (hs : Staged stored [] txn s)
    (h : (w.caughtUp stored).model.Follows stored)
    (hnone : (w.caughtUp stored).model.matchAfter? w.model.entries.length o = none) :
    ∃ stored', Holds stored' ((w.caughtUp stored).insert o txn s).2.2 ∧
      Transacted o w stored ((w.caughtUp stored).insert o txn s).1
        ((w.caughtUp stored).insert o txn s).2.1 stored' := by
  have hcomp := caughtUp_component stored w
  unfold CountedModel.insert
  rcases hins : txnInsert (w.caughtUp stored).model.component o.text o.day txn s with
    ⟨e | ⟨id, txn'⟩, s₁⟩
  · refine ⟨stored, rollback_holds (txnInsert_error hs hins), ?_⟩
    dsimp only
    rw [CountedModel.failure, hcomp]
    exact .failed (by decide) (.inr rfl)
  · obtain ⟨hid, hs₁⟩ := txnInsert_ok hs hins
    rw [List.append_nil] at hid hs₁
    rw [List.nil_append] at hs₁
    have hnew : (w.caughtUp stored).model.ids.contains id = false := by
      rw [← Bool.not_eq_true, List.contains_iff_mem, hid]
      exact fun hmem => Nat.lt_irrefl _ (h.id_lt hmem)
    simp only [hnew, Bool.false_eq_true, ite_false]
    rcases hcommit : commit txn' s₁ with ⟨e | _, s₂⟩
    · refine ⟨stored, commit_error hs₁ hcommit, ?_⟩
      dsimp only
      rw [CountedModel.failure, hcomp]
      exact .failed (by decide) (.inr rfl)
    · refine ⟨_, commit_ok hs₁ hcommit, ?_⟩
      rw [hcomp, hid]
      exact .made hnone

omit [LawfulStore σ] in
theorem catchUp_eq {txn : Txn σ}
    (hload : txnLoad w.model.component w.model.knownUpTo txn s =
      .ok (selectClusters w.model.component w.model.knownUpTo stored)) :
    w.catchUp o (greatestId stored) txn s =
      match (w.caughtUp stored).model.matchAfter? w.model.entries.length o with
      | none => (w.caughtUp stored).insert o txn s
      | some (p, m) =>
        match commit txn s with
        | (.error e, s) => (.error ((w.caughtUp stored).failure .commit e), w.caughtUp stored, s)
        | (.ok (), s) => (.ok p, { w.caughtUp stored with model := m }, s) := by
  rw [catchUp_eq_match, hload]
  rfl

/-- Catching up and then matching or inserting. -/
theorem catchUp_transacted {txn : Txn σ} (hs : Staged stored [] txn s)
    (h : w.model.Follows stored) :
    ∃ stored', Holds stored' (w.catchUp o (greatestId stored) txn s).2.2 ∧
      Transacted o w stored (w.catchUp o (greatestId stored) txn s).1
        (w.catchUp o (greatestId stored) txn s).2.1 stored' := by
  cases hload : txnLoad w.model.component w.model.knownUpTo txn s with
  | error e =>
    rw [CountedModel.catchUp, hload]
    exact ⟨stored, rollback_holds hs, .failed (by decide) (.inl rfl)⟩
  | ok fresh =>
    have hfresh := txnLoad_ok hs hload
    rw [List.append_nil] at hfresh
    rw [catchUp_eq (hfresh ▸ hload)]
    cases hmatch : (w.caughtUp stored).model.matchAfter? w.model.entries.length o with
    | none => exact insert_transacted hs (follows_caughtUp h) hmatch
    | some found =>
      obtain ⟨p, m⟩ := found
      rcases hcommit : commit txn s with ⟨e | _, s₁⟩
      · refine ⟨stored, commit_error hs hcommit, ?_⟩
        dsimp only
        rw [CountedModel.failure, caughtUp_component]
        exact .failed (by decide) (.inr rfl)
      · have := commit_ok hs hcommit
        rw [List.append_nil] at this
        exact ⟨stored, this, .found hmatch⟩

/-- All that a transaction can do. -/
theorem transact_transacted (hs : Holds stored s) (h : w.model.Follows stored) :
    ∃ stored', Holds stored' (w.transact o s).2.2 ∧
      Transacted o w stored (w.transact o s).1 (w.transact o s).2.1 stored' := by
  unfold transact
  rcases hacq : acquire w.model.rules.lockTimeoutMs s with ⟨e | txn, s₁⟩
  · exact ⟨stored, acquire_error hs hacq, .failed (by decide) (.inl rfl)⟩
  · have hs₁ := acquire_ok hs hacq
    dsimp only
    cases hmax : txnMaxId txn s₁ with
    | error e => exact ⟨stored, rollback_holds hs₁, .failed (by decide) (.inl rfl)⟩
    | ok storeMax =>
      have hstored := txnMaxId_ok hs₁ hmax
      rw [List.append_nil] at hstored
      subst hstored
      dsimp only
      split
      · exact catchUp_transacted hs₁ h
      · rename_i hle
        have hself := caughtUp_eq_self (w := w) (Nat.not_lt.1 hle)
        have hnone : (w.caughtUp stored).model.matchAfter? w.model.entries.length o = none := by
          rw [hself, ComponentModel.matchAfter?_eq_none_iff]
          simp
        have := insert_transacted hs₁ (follows_caughtUp h) hnone
        rwa [hself] at this

end CountedModel

section Record

variable {σ : Type} [ClusterStore σ] [LawfulStore σ] {stored : List TextCluster} {s : σ}

/-- All that recording a day can do. -/
theorem recordDay_cases (component : String) (day : Day) (p : Placement) (hs : Holds stored s) :
    (p.advanced = false ∧ recordDay component day p s = (.ok p.assignment, s)) ∨
    (p.advanced = true ∧ ∃ s' stored', recordDay component day p s = (.ok p.assignment, s') ∧
      touchFirst p.assignment.clusterId day stored = some stored' ∧ Holds stored' s') ∨
    (p.advanced = true ∧ ∃ e s', recordDay component day p s =
        (.error (.store component .touch e), s') ∧ Holds stored s' ∧
      ∀ n, e = .unknownCluster n → touchFirst p.assignment.clusterId day stored = none) := by
  unfold recordDay
  cases hadv : p.advanced with
  | false => exact .inl ⟨rfl, rfl⟩
  | true =>
    refine .inr ?_
    rcases htouch : touch p.assignment.clusterId day s with ⟨e | _, s'⟩
    · refine .inr ⟨rfl, e, s', rfl, touch_error hs htouch, fun n hn => ?_⟩
      subst hn
      exact touch_unknown hs htouch
    · obtain ⟨stored', hstored', hs'⟩ := touch_ok hs htouch
      exact .inl ⟨rfl, s', stored', rfl, hstored', hs'⟩

end Record

end LogAnomaly
