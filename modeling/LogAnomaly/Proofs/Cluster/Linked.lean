import LogAnomaly.Command.LogLine
import LogAnomaly.Proofs.Cluster.Detached
import LogAnomaly.Proofs.Cluster.Transaction
import LogAnomaly.Proofs.Store.Directory
import LogAnomaly.Proofs.Time.Parts

/-!
# A clusterer alone with its store

Nobody else uses the store, and its operations succeed. Then the store makes no difference.

* `CountedModel.transact_steady`, `recordDay_steady`: the operations of a call succeed;
* `Clusterer.Alone`: the store holds just the clusters of the clusterer. So there is nothing to catch
  up with (`Alone.caughtUp_eq`), and the counter stands where the ids of the store do
  (`Alone.next_eq`);
* `Alone.addShared`: a call answers what the detached clusterer answers;
* `addAllShared_refines`: and so do any number of calls.
-/

namespace LogAnomaly

open ClusterStore LawfulStore SteadyStore

/-! ## Operations that succeed -/

section Steps

variable {σ : Type} [ClusterStore σ] [LawfulStore σ] [SteadyStore σ] {stored : List TextCluster}
  {w : CountedModel} {o : Observation} {s : σ} {n : Nat}

namespace CountedModel

theorem insert_steady {txn : Txn σ} (hs : Staged stored [] txn s) (hopen : Open (n + 1) txn s)
    (h : w.model.Follows stored) :
    ∃ s', w.insert o txn s =
        (.ok ⟨⟨idRank (greatestId stored), .created⟩, false⟩,
          w.adopt (idRank (greatestId stored)) o, s') ∧
      Holds (stored ++ [newCluster (greatestId stored) w.model.component o.text o.day]) s' ∧
      Ready n s' := by
  obtain ⟨id, txn', s₁, hins, hopen'⟩ := txnInsert_open w.model.component o.text o.day hopen
  obtain ⟨hid, hs₁⟩ := txnInsert_ok hs hins
  rw [List.append_nil] at hid hs₁
  rw [List.nil_append] at hs₁
  subst hid
  obtain ⟨s', hcommit, hready⟩ := commit_open hopen'
  have hnew : w.model.ids.contains (idRank (greatestId stored)) = false := by
    rw [← Bool.not_eq_true, List.contains_iff_mem]
    exact fun hmem => Nat.lt_irrefl _ (h.id_lt hmem)
  refine ⟨s', ?_, commit_ok hs₁ hcommit, hready⟩
  rw [CountedModel.insert, hins]
  simp only [hnew, Bool.false_eq_true, ite_false, hcommit]

/-- A transaction makes a cluster unless a close one has come from somebody else. -/
theorem transact_steady (hs : Holds stored s) (hready : Ready (n + 1) s) (h : w.model.Follows stored)
    (hnone : (w.caughtUp stored).model.matchAfter? w.model.entries.length o = none) :
    ∃ s', w.transact o s =
        (.ok ⟨⟨idRank (greatestId stored), .created⟩, false⟩,
          (w.caughtUp stored).adopt (idRank (greatestId stored)) o, s') ∧
      Holds (stored ++ [newCluster (greatestId stored) w.model.component o.text o.day]) s' ∧
      Ready n s' := by
  obtain ⟨txn, s₁, hacq, hopen⟩ := acquire_ready w.model.rules.lockTimeoutMs hready
  have hs₁ := acquire_ok hs hacq
  obtain ⟨storeMax, hmax⟩ := txnMaxId_open hopen
  have hstored := txnMaxId_ok hs₁ hmax
  rw [List.append_nil] at hstored
  subst hstored
  obtain ⟨s', hins, hholds, hready'⟩ := insert_steady (o := o) hs₁ hopen (follows_caughtUp h)
  rw [caughtUp_component] at hholds
  refine ⟨s', ?_, hholds, hready'⟩
  rw [transact, hacq]
  simp only [hmax]
  split
  · obtain ⟨found, hload⟩ := txnLoad_open w.model.component w.model.knownUpTo hopen
    have hfound := txnLoad_ok hs₁ hload
    rw [List.append_nil] at hfound
    rw [catchUp_eq (hfound ▸ hload), hnone]
    exact hins
  · rename_i hle
    rw [caughtUp_eq_self (Nat.not_lt.1 hle)] at hins ⊢
    exact hins

end CountedModel

/-- Recording a day succeeds if the cluster is there. -/
theorem recordDay_steady {day : Day} {p : Placement} {stored' : List TextCluster}
    (component : String) (hs : Holds stored s) (hready : Ready n s)
    (ht : touchFirst p.assignment.clusterId day stored = some stored') :
    ∃ s', recordDay component day p s = (.ok p.assignment, s') ∧
      Holds (if p.advanced then stored' else stored) s' ∧ Ready n s' := by
  cases hadvanced : p.advanced with
  | false => exact ⟨s, by rw [recordDay, hadvanced]; rfl, hs, hready⟩
  | true =>
    obtain ⟨s', htouch, hready'⟩ := touch_ready hready hs ht
    obtain ⟨cs, hcs, hs'⟩ := touch_ok hs htouch
    obtain rfl := Option.some.inj (ht.symm.trans hcs)
    refine ⟨s', ?_, hs', hready'⟩
    rw [recordDay, hadvanced, htouch]
    rfl

end Steps

/-! ## The same clusters -/

theorem touchFirst_perm {stored rest : List TextCluster} {x : TextCluster} (day : Day)
    (hs : IdsAscending stored) (hp : stored.Perm (x :: rest)) :
    ∃ stored', touchFirst x.id day stored = some stored' ∧
      stored'.Perm (x.observedOn day :: rest) := by
  have hx : x ∈ stored := hp.mem_iff.2 List.mem_cons_self
  cases ht : touchFirst x.id day stored with
  | none => exact absurd rfl (touchFirst_eq_none_iff.1 ht x hx)
  | some stored' =>
    obtain ⟨before, c, after, rfl, hid, rfl⟩ := touchFirst_eq_some ht
    obtain rfl : c = x := hs.eq_of_id (by simp) hx hid
    have hrest : (before ++ after).Perm rest :=
      (List.perm_middle.symm.trans hp).cons_inv
    exact ⟨_, rfl, List.perm_middle.trans (hrest.cons _)⟩

namespace Clusterer

variable {c : Clusterer} {stored : List TextCluster} {component : String} {o : Observation}

/-- A search changes the day of one cluster and leaves the others as they are. -/
theorem held_matchAfter? {start : Nat} {p : Placement} {m : ComponentModel}
    (hm : (c.model component).matchAfter? start o = some (p, m)) :
    ∃ x rest, p = ⟨⟨x.id, .matched⟩, x.lastObserved < o.day⟩ ∧ c.held.Perm (x :: rest) ∧
      (c.update ⟨m, c.counter⟩).held.Perm (x.observedOn o.day :: rest) := by
  obtain ⟨before, e, after, hentries, -, -, rfl, rfl⟩ := ComponentModel.matchAfter?_eq_some hm
  have hclusters : (c.model component).clusters =
      before.map (·.cluster) ++ e.cluster :: after.map (·.cluster) := by
    rw [ComponentModel.clusters, hentries, List.map_append, List.map_cons]
  have hheld := held_perm component c
  rw [hclusters] at hheld
  refine ⟨e.cluster, before.map (·.cluster) ++ after.map (·.cluster) ++ c.heldElsewhere component,
    rfl, hheld.trans (List.perm_middle.append_right _), ?_⟩
  have hupdate := held_update_perm c
    ⟨{ c.model component with entries := e.observedOn o.day :: (before ++ after) }, c.counter⟩
  simpa [ComponentModel.clusters] using hupdate

/-- A clusterer alone with its store: the store holds its clusters and no others. -/
structure Alone (stored : List TextCluster) (c : Clusterer) : Prop where
  follows : c.Follows stored
  ascending : IdsAscending stored
  held_perm : stored.Perm c.held

theorem Alone.new {c : Clusterer} (hmodels : c.models = []) (hcounter : c.counter.next = 0) :
    c.Alone [] where
  follows := .new hmodels hcounter []
  ascending := List.Pairwise.nil
  held_perm := by rw [held, hmodels]; rfl

/-- The counter gives the id that the store would give. -/
theorem Alone.next_eq (h : c.Alone stored) :
    c.counter.next = idRank (LogAnomaly.greatestId stored) := by
  rw [h.follows.next_eq_idRank, greatestId_perm h.held_perm]

/-- A model knows all clusters of its component. -/
theorem Alone.known (h : c.Alone stored) {x : TextCluster} (hx : x ∈ stored)
    (hc : x.component = component) : x.id ∈ (c.model component).ids := by
  obtain ⟨m, hm, hxm, hid⟩ := h.follows.mem_ids_of_held (h.held_perm.mem_iff.1 hx)
  have hcomp : m.component = component :=
    ((h.follows.models_follow m hm).component_eq x hxm).symm.trans hc
  rcases model_eq component c with ⟨hmem, hmodel⟩ | ⟨hnone, -⟩
  · rwa [h.follows.eq_of_component hmem hm (hmodel.trans hcomp.symm)]
  · exact absurd hcomp (hnone m hm)

/-- There is nothing to catch up with. -/
theorem Alone.caughtUp_eq (h : c.Alone stored) (component : String) :
    (c.counted component).caughtUp stored =
      ⟨(c.model component).catchUpTo (LogAnomaly.greatestId stored), c.counter⟩ := by
  have hknown : ∀ x ∈ selectClusters (c.model component).component
      (c.model component).knownUpTo stored, x.id ∈ (c.model component).ids := fun x hx => by
    obtain ⟨hmem, hc, -⟩ := mem_selectClusters.1 hx
    exact h.known hmem (hc.trans (model_component ..))
  have hmerge : (c.counted component).merge (selectClusters (c.model component).component
      (c.model component).knownUpTo stored) = c.counted component :=
    CountedModel.merge_known hknown
  show CountedModel.mk (((c.counted component).merge _).model.catchUpTo _)
    ((c.counted component).merge _).counter = _
  rw [counted_model, hmerge]
  rfl

/-! ## Calls -/

/-- The day of a match, recorded in the store if it is a later one. -/
theorem Alone.matched (h : c.Alone stored) {p : Placement} {m : ComponentModel}
    (hm : (c.model component).matchAfter? 0 o = some (p, m)) :
    ∃ stored', touchFirst p.assignment.clusterId o.day stored = some stored' ∧
      (c.update ⟨m, c.counter⟩).Alone (if p.advanced then stored' else stored) := by
  have hmodel := (h.follows.model_follows component).matched hm
  obtain ⟨hc, hr, hids, -⟩ := ComponentModel.matchAfter?_kept hm
  have hcounts : CountedModel.Counts (c.counted component) ⟨m, c.counter⟩ := .of_ids hids rfl
  have hfollows : ∀ {stored'}, Grows stored stored' →
      (c.update ⟨m, c.counter⟩).Follows stored' := fun hg =>
    h.follows.update hg (hmodel.mono hg) (hc.trans (model_component ..))
      (hr.trans (h.follows.model_rules component)) hcounts
  obtain ⟨x, rest, rfl, hold, hnew⟩ := held_matchAfter? hm
  obtain ⟨stored', ht, hperm⟩ := touchFirst_perm o.day h.ascending (h.held_perm.trans hold)
  refine ⟨stored', ht, ?_⟩
  by_cases hlater : x.lastObserved < o.day
  · simp only [hlater, decide_true, if_true]
    exact ⟨hfollows (.touchFirst ht), h.ascending.of_map_identity (map_identity_touchFirst ht),
      hperm.trans hnew.symm⟩
  · simp only [hlater, decide_false, Bool.false_eq_true, if_false]
    rw [TextCluster.observedOn_eq_self hlater] at hnew
    exact ⟨hfollows (.refl _), h.ascending, (h.held_perm.trans hold).trans hnew.symm⟩

/-- The cluster that the store makes. -/
theorem Alone.made (h : c.Alone stored)
    (ho : o.fingerprint = (c.rules component).fingerprint o.text) :
    (c.update (((c.counted component).caughtUp stored).adopt c.counter.next o)).Alone
      (stored ++ [newCluster (LogAnomaly.greatestId stored) component o.text o.day]) := by
  have hf := h.follows.model_follows component
  have hrules : (c.counted component).model.rules = c.rules component := h.follows.model_rules _
  have hcomp : (c.counted component).model.component = component := model_component ..
  have hall : ∀ x ∈ stored, x.component = ((c.counted component).caughtUp stored).model.component →
      x.id ∈ ((c.counted component).caughtUp stored).model.ids := fun x hx hc => by
    rw [CountedModel.caughtUp_component] at hc
    exact CountedModel.caughtUp_knows hf hx hc
  have hmodel := CountedModel.follows_adopt (CountedModel.follows_caughtUp hf) hall (o := o)
    (by rw [CountedModel.caughtUp_rules, hrules, ho])
  rw [CountedModel.caughtUp_component, hcomp, ← h.next_eq] at hmodel
  have hcounts := (CountedModel.counts_caughtUp stored (c.counted component)).trans
    (CountedModel.counts_adopt c.counter.next o _)
  refine ⟨h.follows.update (.concat ..) hmodel
    ((CountedModel.caughtUp_component ..).trans hcomp)
    ((CountedModel.caughtUp_rules ..).trans hrules) hcounts, h.ascending.concat .., ?_⟩
  rw [h.caughtUp_eq]
  let w : CountedModel := CountedModel.adopt c.counter.next o
    ⟨(c.model component).catchUpTo (LogAnomaly.greatestId stored), c.counter⟩
  have hclusters : w.model.clusters =
      newCluster (LogAnomaly.greatestId stored) component o.text o.day ::
        (c.model component).clusters := by
    have hmodel : w.model.clusters = ⟨c.counter.next, (c.model component).component, o.text,
      o.day⟩ :: (c.model component).clusters := rfl
    rw [hmodel, model_component, h.next_eq]
    rfl
  have hupdate := held_update_perm c w
  rw [hclusters, show w.model.component = component from model_component ..] at hupdate
  have hheld := h.held_perm.trans (Clusterer.held_perm component c)
  exact (List.perm_append_singleton ..).trans ((hheld.cons _).trans hupdate.symm)

section Call

variable {σ : Type} [ClusterStore σ] [LawfulStore σ] [SteadyStore σ] {s : σ} {text : String}
  {time : Instant} {n : Nat}

theorem Alone.addShared_of_match (h : c.Alone stored) (hs : Holds stored s) (hready : Ready n s)
    {p : Placement} {m : ComponentModel}
    (hm : (c.model component).matchAfter? 0 ((c.model component).rules.observe text time) =
      some (p, m)) :
    ∃ s' stored', (c.counted component).addShared text time s =
        (.ok p.assignment, ⟨m, c.counter⟩, s') ∧
      (c.update ⟨m, c.counter⟩).Alone stored' ∧ Holds stored' s' ∧ Ready n s' := by
  obtain ⟨stored', ht, halone⟩ := h.matched hm
  obtain ⟨s', hrecord, hs', hready'⟩ :=
    recordDay_steady (c.model component).component hs hready ht
  refine ⟨s', _, ?_, halone, hs', hready'⟩
  have hplace : (c.counted component).placeShared ((c.model component).rules.observe text time) s =
      (.ok p, ⟨m, c.counter⟩, s) := by
    rw [CountedModel.placeShared_eq, counted_model, hm]
    rfl
  have hcomp : m.component = (c.model component).component :=
    (ComponentModel.matchAfter?_kept hm).1
  rw [CountedModel.addShared, counted_model]
  simp only [hplace, hcomp, hrecord]

theorem Alone.addShared_of_none (h : c.Alone stored) (hs : Holds stored s)
    (hready : Ready (n + 1) s)
    (hm : (c.model component).matchAfter? 0 ((c.model component).rules.observe text time) = none) :
    ∃ s' stored', (c.counted component).addShared text time s =
        (.ok ⟨c.counter.next, .created⟩, ((c.counted component).caughtUp stored).adopt
          c.counter.next ((c.model component).rules.observe text time), s') ∧
      (c.update (((c.counted component).caughtUp stored).adopt c.counter.next
        ((c.model component).rules.observe text time))).Alone stored' ∧
      Holds stored' s' ∧ Ready n s' := by
  have ho : ((c.model component).rules.observe text time).fingerprint =
      (c.rules component).fingerprint ((c.model component).rules.observe text time).text := by
    rw [← h.follows.model_rules component]
    rfl
  have hnone : ((c.counted component).caughtUp stored).model.matchAfter?
      (c.counted component).model.entries.length ((c.model component).rules.observe text time) =
        none := by
    -- nothing stands behind the entries that were searched before
    rw [h.caughtUp_eq, ComponentModel.matchAfter?_eq_none_iff]
    have hdrop : (c.model component).entries.drop (c.model component).entries.length = [] :=
      List.drop_length
    intro e (he : e ∈ (c.model component).entries.drop (c.model component).entries.length)
    rw [hdrop] at he
    cases he
  obtain ⟨s', htransact, hs', hready'⟩ :=
    CountedModel.transact_steady hs hready (h.follows.model_follows component) hnone
  rw [← h.next_eq] at htransact
  rw [counted_model, model_component] at hs'
  refine ⟨s', _, ?_, h.made ho, hs', hready'⟩
  have hplace : (c.counted component).placeShared ((c.model component).rules.observe text time) s =
      (c.counted component).transact ((c.model component).rules.observe text time) s := by
    rw [CountedModel.placeShared_eq, counted_model, hm]
  rw [CountedModel.addShared, counted_model]
  simp only [hplace, htransact]
  rfl

/-- A call answers what it would without a store, and so does the clusterer after it, as long as the
counter does not start over. -/
theorem Alone.addShared (h : c.Alone stored) (hlasts : c.counter.Lasts (n + 1))
    (hs : Holds stored s) (hready : Ready (n + 1) s) (component text : String) (time : Instant) :
    ∃ c' s' stored', c.addShared component text time s =
        (.ok (c.detached.add component text time).1, c', s') ∧
      c'.detached = (c.detached.add component text time).2 ∧
      c'.Alone stored' ∧ c'.counter.Lasts n ∧ Holds stored' s' ∧ Ready n s' := by
  have hadd : c.detached.add component text time =
      (((c.counted component).detached.add text time).1,
        c.detached.update ((c.counted component).detached.add text time).2) := by
    rw [Clusterer.add, counted_detached]
  rw [hadd, Clusterer.addShared]
  cases hm : (c.model component).matchAfter? 0 ((c.model component).rules.observe text time) with
  | some found =>
    obtain ⟨p, m⟩ := found
    obtain ⟨s', stored', hshared, halone, hs', hready'⟩ :=
      h.addShared_of_match hs (ready_of_le (Nat.le_succ n) hready) hm
    rw [hshared, CountedModel.add_of_match (w := c.counted component) hm]
    exact ⟨_, s', stored', rfl, update_detached .., halone, hlasts.mono (Nat.le_succ n), hs',
      hready'⟩
  | none =>
    obtain ⟨s', stored', hshared, halone, hs', hready'⟩ := h.addShared_of_none hs hready hm
    rw [hshared, CountedModel.add_of_none (w := c.counted component) hlasts hm]
    refine ⟨_, s', stored', rfl, ?_, halone, ?_, hs', hready'⟩
    · rw [update_detached, h.caughtUp_eq]
      exact congrArg _ (CountedModel.adopt_catchUpTo_detached _ _ _ (c.counted component))
    · rw [h.caughtUp_eq]
      exact hlasts.reserve

end Call

end Clusterer

/-! ## Any number of calls -/

namespace Clusterer

/-- The clusters of the texts of lines, one after the other. -/
def addAll : List LogLine → Clusterer → List Assignment × Clusterer
  | [], c => ([], c)
  | line :: lines, c =>
    let (assignment, c) := c.add line.component line.text line.time
    let (assignments, c) := addAll lines c
    (assignment :: assignments, c)

/-- The clusters of the texts of lines, new ones being made in a store. -/
def addAllShared {σ : Type} [ClusterStore σ] :
    List LogLine → Clusterer → σ → List (Except AssignmentError Assignment) × Clusterer × σ
  | [], c, s => ([], c, s)
  | line :: lines, c, s =>
    let (result, c, s) := c.addShared line.component line.text line.time s
    let (results, c, s) := addAllShared lines c s
    (result :: results, c, s)

section Calls

variable {σ : Type} [ClusterStore σ] [LawfulStore σ] [SteadyStore σ] {s : σ} {c : Clusterer}
  {stored : List TextCluster}

theorem Alone.addAllShared (h : c.Alone stored) (lines : List LogLine)
    (hlasts : c.counter.Lasts lines.length) (hs : Holds stored s)
    (hready : Ready lines.length s) :
    ∃ c' s' stored', c.addAllShared lines s = ((c.detached.addAll lines).1.map .ok, c', s') ∧
      c'.detached = (c.detached.addAll lines).2 ∧
      c'.Alone stored' ∧ Holds stored' s' ∧ Ready 0 s' := by
  induction lines generalizing c s stored with
  | nil => exact ⟨c, s, stored, rfl, rfl, h, hs, hready⟩
  | cons line lines ih =>
    obtain ⟨c₁, s₁, stored₁, hadd, hdetached, h₁, hlasts₁, hs₁, hready₁⟩ :=
      h.addShared hlasts hs hready line.component line.text line.time
    obtain ⟨c', s', stored', hrest, hdetached', h', hs', hready'⟩ := ih h₁ hlasts₁ hs₁ hready₁
    rw [hdetached] at hrest hdetached'
    refine ⟨c', s', stored', ?_, hdetached', h', hs', hready'⟩
    rw [Clusterer.addAllShared, hadd]
    simp only [hrest]
    rfl

theorem models_ofConfig (config : ClusteringSettings) : (ofConfig config).models = [] :=
  List.foldlRecOn (motive := fun c : Clusterer => c.models = []) config.wholeStringComponents _ rfl
    fun _ hc _ _ => hc

/-- A clusterer that is alone with a store whose operations succeed answers every call as one without
a store does, keeps the same clusters in the same order with the same days, and the store holds its
clusters and no others. The counter has an id for every call and one more, so that it does not start
over. -/
theorem addAllShared_refines (config : ClusteringSettings) {counter : IdCounter}
    (hnext : counter.next = 0) (lines : List LogLine) (hroom : counter.HasRoom (lines.length + 1))
    (hempty : Holds [] s) (hready : Ready lines.length s) :
    let start := { ofConfig config with counter }
    let shared := start.addAllShared lines s
    let alone := start.addAll lines
    shared.1 = alone.1.map .ok ∧
      (∀ component, shared.2.1.clusters component = alone.2.clusters component) ∧
      ∃ stored, loadAll shared.2.2 = .ok stored ∧ stored.Perm shared.2.1.held := by
  intro start
  have hmodels : start.models = [] := models_ofConfig config
  obtain ⟨c', s', stored', hshared, hdetached, halone, hs', hready'⟩ :=
    (Alone.new hmodels hnext).addAllShared lines (hroom.lasts hnext) hempty hready
  rw [detached_of_models _ hmodels] at hshared hdetached
  obtain ⟨loaded, hload⟩ := loadAll_ready hready'
  dsimp only
  rw [hshared, ← hdetached]
  exact ⟨rfl, fun component => (clusters_detached component c').symm, loaded, hload,
    (loadAll_ok hs' hload).trans halone.held_perm⟩

/-- A text that comes again on a later day after one of another component. -/
def repeatedText : List LogLine :=
  let day : Day := .ofParts 2024 3 1
  let nextDay : Day := .ofParts 2024 3 2
  let noon (day : Day) : Instant := .ofParts day 43200 0
  [⟨"kernel", noon day, "link up"⟩, ⟨"sshd", noon day, "session opened"⟩,
    ⟨"kernel", noon nextDay, "link up"⟩]

/-- Settings by which the texts of a component are compared as a whole. -/
def wholeSessions : ClusteringSettings := { wholeStringComponents := ["sshd"] }

/-- The ids are words, of which there are more than texts. A store in memory holds nothing at first,
and its lock is free; nor does an empty directory hold anything. -/
theorem addAllShared_refines_new :
    (ofConfig wholeSessions).counter = .inWords {} ∧
    (ofConfig wholeSessions).counter.HasRoom (repeatedText.length + 1) ∧
    (Holds [] ({} : MemoryStore) ∧ Ready repeatedText.length ({} : MemoryStore) ∧
      let shared := (ofConfig wholeSessions).addAllShared repeatedText ({} : MemoryStore)
      let alone := (ofConfig wholeSessions).addAll repeatedText
      shared.1 = alone.1.map .ok ∧
        (∀ component, shared.2.1.clusters component = alone.2.clusters component) ∧
        ∃ stored, loadAll shared.2.2 = .ok stored ∧ stored.Perm shared.2.1.held) ∧
    Holds [] ({} : FileStore) ∧ Ready repeatedText.length ({} : FileStore) ∧
      let shared := (ofConfig wholeSessions).addAllShared repeatedText ({} : FileStore)
      let alone := (ofConfig wholeSessions).addAll repeatedText
      shared.1 = alone.1.map .ok ∧
        (∀ component, shared.2.1.clusters component = alone.2.clusters component) ∧
        ∃ stored, loadAll shared.2.2 = .ok stored ∧ stored.Perm shared.2.1.held := by
  have hroom : (ofConfig wholeSessions).counter.HasRoom (repeatedText.length + 1) :=
    fun limit hlimit => Option.some.inj hlimit ▸ by decide +kernel
  have hmemory : Ready repeatedText.length ({} : MemoryStore) := rfl
  obtain ⟨hfile, hwords⟩ := FileStore.holds_and_ready_empty 30000
  have hlines : repeatedText.length ≤ wordCount := by decide
  have hready : Ready repeatedText.length ({} : FileStore) := ready_of_le hlines hwords
  exact ⟨rfl, hroom,
    ⟨rfl, hmemory, addAllShared_refines wholeSessions rfl repeatedText hroom rfl hmemory⟩,
    hfile, hready, addAllShared_refines wholeSessions rfl repeatedText hroom hfile hready⟩

end Calls

end Clusterer

end LogAnomaly
