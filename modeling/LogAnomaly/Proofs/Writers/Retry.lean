import LogAnomaly.Proofs.Cluster.Failed
import LogAnomaly.Proofs.Writers.Overview

/-!
# Calls that are made again

Whatever fails under the lock, the call of a writer leaves nothing half done
(`failed_call_leaves_no_trace`): it ends with an error, nothing is stored, the lock is free, and the
writer has at most learned what is stored anyway. So the call can be made again, as if it had not
been made before. `Missed` is a run in which a commit fails after a writer has found the cluster of
another one.
-/

namespace LogAnomaly

open LawfulStore AtomicStore

namespace Fleet

variable {ι κ : Type} {σ : κ → Type} [DecidableEq ι] [DecidableEq κ] [∀ k, ClusterStore (σ k)]
  [∀ k, LawfulStore (σ k)] [∀ k, AtomicStore (σ k)] {crew : Crew ι κ} {f : Fleet ι σ}

/-- A call whose text is close to no known cluster, and that fails under the lock. It ends with the
error of the operation and the store is the very one from before, with a free lock unless it is the
lock that could not be taken. The model has its clusters as before, followed only by stored ones of
its component. None is made for the text: one that is close to it is there only if the commit failed
after it had been found in the store. Counter and model know no more ids than the store has.

Then the call can be made again, whatever has become of the store but for its clusters: if nothing
fails this time, answer, model, counter and store are what they would be without the first call. -/
theorem failed_call_leaves_no_trace (h : f.Reachable crew) {i : ι} {k : κ}
    (hi : crew.store i = some k) {stored : List TextCluster} (hs : Holds stored (f.stores k))
    {component text : String} {time : Instant} {w : CountedModel} {o : Observation}
    (hw : (f.writers i).clusterer.counted component = w)
    (ho : w.model.rules.observe text time = o) (hmiss : w.model.matchAfter? 0 o = none)
    {operation : StoreOperation} {fault : StoreFault}
    (hfails : w.Fails o (f.stores k) operation fault) :
    ∃ w', w.addShared text time (f.stores k) =
        (.error (.store component operation fault), w', f.stores k) ∧
      (operation ≠ .lock → Free (f.stores k)) ∧
      (∃ fresh, w'.model.entries = w.model.entries ++ fresh ∧
        (∀ e ∈ fresh, e.cluster ∈ stored ∧ e.cluster.component = component) ∧
        ∀ e ∈ w'.model.entries, w.model.rules.accepts e.fingerprint o.fingerprint = true →
          operation = .commit ∧ e ∈ fresh) ∧
      w'.counter.next ≤ idRank (greatestId stored) ∧
      idRank w'.model.knownUpTo ≤ idRank (greatestId stored) ∧
      ∀ s : σ k, Holds stored s → (∀ operation fault, ¬ w.Fails o s operation fault) →
        w'.addShared text time s = w.addShared text time s := by
  subst ho
  obtain ⟨v, hv, hshows⟩ := Overview.shown_of_reachable h
  have hstored : stored = v.stored k := holds_unique hs (hshows.holds k)
  have hclusterer : (f.writers i).clusterer.Follows stored := by
    rw [hstored, hshows.writers_eq]
    exact (hv.sound.shared i k hi).follows
  have hfollows : w.model.Follows stored := hw ▸ hclusterer.model_follows component
  have hcomponent : w.model.component = component := by
    rw [← hw]
    exact Clusterer.model_component ..
  have hcounter : w.counter.next ≤ idRank (greatestId stored) := by
    rw [← hw]
    exact hclusterer.next_le
  obtain ⟨w', hcall, hcases, hfree, hnone, hretry⟩ := hfails.addShared_eq hs hfollows hmiss
  rw [hcomponent] at hcall
  -- either way the model has caught up with some list of stored clusters
  have hfollows' : w'.model.Follows stored ∧ w'.counter.next ≤ idRank (greatestId stored) ∧
      w'.model.component = component ∧ w'.model.rules = w.model.rules ∧
      ∃ fresh, w'.model.entries = w.model.entries ++ fresh ∧ ∀ e ∈ fresh, e.cluster ∈ stored := by
    rcases hcases with rfl | rfl
    · exact ⟨hfollows, hcounter, hcomponent, rfl, [], (List.append_nil _).symm, by simp⟩
    · exact ⟨CountedModel.follows_caughtUp hfollows,
        CountedModel.next_caughtUp_le hfollows hcounter,
        (CountedModel.caughtUp_component ..).trans hcomponent, CountedModel.caughtUp_rules ..,
        CountedModel.caughtUp_entries stored w⟩
  obtain ⟨hw', hcounter', hcomponent', hrules, fresh, hfresh, hmem⟩ := hfollows'
  refine ⟨w', hcall, hfree, ⟨fresh, hfresh, fun e he => ⟨hmem e he, ?_⟩, fun e he hacc => ?_⟩,
    hcounter', hw'.knownUpTo_le, hretry⟩
  · rw [← hcomponent']
    refine hw'.component_eq _ (ComponentModel.mem_clusters ?_)
    rw [hfresh]
    exact List.mem_append_right _ he
  · rw [hfresh] at he
    rcases List.mem_append.1 he with hold | hnew
    · have := ComponentModel.matchAfter?_eq_none_iff.1 hmiss e hold
      rw [hacc] at this
      cases this
    · refine ⟨?_, hnew⟩
      by_contra hcommit
      have := ComponentModel.matchAfter?_eq_none_iff.1 (hnone hcommit) e (by
        rw [hfresh, List.drop_left]
        exact hnew)
      rw [hrules, hacc] at this
      cases this

end Fleet

/-! ## A run with a failing commit -/

namespace Missed

/-- One of the two writers of a race has stored its cluster. -/
def before : Fleet Bool fun _ : Unit => UnreliableStore :=
  (Fleet.begin Race.crew fun _ => {}).run Race.crew
    [.call false "kernel" "up" Race.firstDay, .transact false, .record false]

/-- Then the store stops to commit. -/
def broken : UnreliableStore := { before.stores () with failing := [.commit] }

def fleet : Fleet Bool fun _ : Unit => UnreliableStore :=
  { before with stores := Function.update before.stores () broken }

def cluster : TextCluster := ⟨0, "kernel", "up", Race.firstDay.day⟩

theorem before_eq : before.stores () = { inner := { clusters := [cluster] } } := by
  decide +kernel

theorem before_holds : Holds [cluster] (before.stores ()) := by
  rw [before_eq]
  exact ⟨rfl, rfl⟩

theorem broken_eq : broken = { inner := { clusters := [cluster] }, failing := [.commit] } := by
  rw [broken, before_eq]

theorem broken_holds : Holds [cluster] broken := by
  rw [broken_eq]
  exact ⟨rfl, rfl⟩

theorem fleet_reachable : fleet.Reachable Race.crew := by
  have hstart : ∀ k : Unit, Holds [] ((fun _ => {} : Unit → UnreliableStore) k) :=
    fun _ => ⟨rfl, rfl⟩
  exact ((Fleet.Reachable.begin hstart).run _).disturb before_holds broken_holds

/-- The model of the other writer, which knows nothing yet. -/
def late : CountedModel := (fleet.writers true).clusterer.counted "kernel"

def text : Observation := late.model.rules.observe "up" Race.secondDay

theorem late_missed : late.model.matchAfter? 0 text = none :=
  Option.isNone_iff_eq_none.1 (by decide +kernel)

/-- It finds the stored cluster, but the commit fails. -/
theorem late_fails : late.Fails text broken .commit .poisoned := by
  have hlocked : ClusterStore.acquire late.model.rules.lockTimeoutMs broken =
      (.ok [], { broken with inner := { broken.inner with lock := .held } }) := by
    rw [broken_eq]
    exact congrArg (fun r : Except StoreFault (List TextCluster) × MemoryStore =>
        (r.1, ({ inner := r.2, failing := [.commit] } : UnreliableStore)))
      (MemoryStore.acquire_free rfl _)
  rw [broken_eq] at hlocked ⊢
  have hknown : late.model.knownUpTo = none := by decide +kernel
  have hcomponent : late.model.component = "kernel" := by decide +kernel
  have hfresh : selectClusters late.model.component late.model.knownUpTo [cluster] ++
      selectClusters late.model.component late.model.knownUpTo [] = [cluster] := by
    rw [hknown, hcomponent]
    decide
  have hfound : ((late.merge [cluster]).model.catchUpTo (some 0)).matchAfter?
      late.model.entries.length text ≠ none := by
    rw [← Option.isSome_iff_ne_none]
    decide +kernel
  obtain ⟨found, hfound⟩ := Option.ne_none_iff_exists'.1 hfound
  refine .commitFound hlocked (.merged rfl ?_ (congrArg Except.ok ?_)) hfound rfl
  · rw [hknown]
    decide
  · exact hfresh

/-- The store when it commits again. -/
def mended : UnreliableStore := { inner := { clusters := [cluster] } }

end Missed

theorem Fleet.failed_call_leaves_no_trace_missed :
    ∃ w', Missed.late.addShared "up" Race.secondDay Missed.broken =
        (.error (.store "kernel" .commit .poisoned), w', Missed.broken) ∧
      w'.addShared "up" Race.secondDay Missed.mended =
        Missed.late.addShared "up" Race.secondDay Missed.mended ∧
      (Missed.late.addShared "up" Race.secondDay Missed.mended).1 = .ok ⟨0, .matched⟩ := by
  have hi : Race.crew.store true = some () := rfl
  have hw : (Missed.fleet.writers true).clusterer.counted "kernel" = Missed.late := rfl
  have ho : Missed.late.model.rules.observe "up" Race.secondDay = Missed.text := rfl
  obtain ⟨w', hcall, -, -, -, -, hretry⟩ := failed_call_leaves_no_trace Missed.fleet_reachable hi
    Missed.broken_holds hw ho Missed.late_missed Missed.late_fails
  refine ⟨w', hcall, hretry Missed.mended ⟨rfl, rfl⟩ fun operation fault hfails => ?_, ?_⟩
  · exact hfails.not_ready ⟨rfl, rfl⟩
  · decide +kernel

end LogAnomaly
