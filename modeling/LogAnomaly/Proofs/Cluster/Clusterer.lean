import LogAnomaly.Cluster.Clusterer
import LogAnomaly.Proofs.Cluster.CatchUp

/-!
# Clusterers that follow a store

* `Clusterer.held`: all clusters of all models;
* `Clusterer.Follows`: every model follows the store, and the counter lies just beyond the greatest
  id of them all. A step of one model keeps it (`Follows.update`), and so does loading the store
  (`Follows.takeIn`);
* `Follows.nodup_held`, `Follows.greatestId_eq`: no id is held twice, and the counter tells the
  greatest one.
-/

namespace LogAnomaly.Clusterer

open CountedModel

/-! ## The models of a clusterer -/

/-- All clusters of all models. -/
def held (c : Clusterer) : List TextCluster := c.models.flatMap (·.clusters)

theorem mem_held {c : Clusterer} {x : TextCluster} :
    x ∈ c.held ↔ ∃ m ∈ c.models, x ∈ m.clusters := List.mem_flatMap

theorem model_eq (component : String) (c : Clusterer) :
    (c.model component ∈ c.models ∧ (c.model component).component = component) ∨
      ((∀ m ∈ c.models, m.component ≠ component) ∧
        c.model component = { component, rules := c.rules component }) := by
  unfold model
  cases h : c.model? component with
  | none =>
    refine .inr ⟨fun m hm => ?_, rfl⟩
    have := List.find?_eq_none.1 h m hm
    simpa using this
  | some m =>
    refine .inl ⟨List.mem_of_find?_eq_some h, ?_⟩
    have := List.find?_some h
    simpa using this

@[simp] theorem model_component (component : String) (c : Clusterer) :
    (c.model component).component = component := by
  rcases model_eq component c with ⟨-, h⟩ | ⟨-, h⟩
  · exact h
  · rw [h]

theorem mem_held_of_model {component : String} {c : Clusterer} {x : TextCluster}
    (h : x ∈ (c.model component).clusters) : x ∈ c.held := by
  rcases model_eq component c with ⟨hmem, -⟩ | ⟨-, hnew⟩
  · exact mem_held.2 ⟨_, hmem, h⟩
  · rw [hnew] at h
    simp [ComponentModel.clusters] at h

/-! ## Replacing a model -/

theorem mem_replaceModel_self (m : ComponentModel) (l : List ComponentModel) :
    m ∈ replaceModel m l := by
  induction l with
  | nil => exact List.mem_cons_self
  | cons old l ih =>
    rw [replaceModel]
    split
    · exact List.mem_cons_self
    · exact List.mem_cons_of_mem _ ih

theorem mem_replaceModel {m m' : ComponentModel} {l : List ComponentModel}
    (hn : (l.map (·.component)).Nodup) (h : m' ∈ replaceModel m l) :
    m' = m ∨ (m' ∈ l ∧ m'.component ≠ m.component) := by
  induction l with
  | nil => exact .inl (by simpa [replaceModel] using h)
  | cons old l ih =>
    rw [List.map_cons, List.nodup_cons] at hn
    rw [replaceModel] at h
    split at h
    · rename_i heq
      rw [beq_iff_eq] at heq
      rcases List.mem_cons.1 h with rfl | h
      · exact .inl rfl
      · refine .inr ⟨List.mem_cons_of_mem _ h, fun hc => hn.1 ?_⟩
        rw [heq, ← hc]
        exact List.mem_map_of_mem h
    · rename_i hne
      rw [beq_iff_eq] at hne
      rcases List.mem_cons.1 h with rfl | h
      · exact .inr ⟨List.mem_cons_self, hne⟩
      · exact (ih hn.2 h).imp_right fun ⟨hmem, hc⟩ => ⟨List.mem_cons_of_mem _ hmem, hc⟩

theorem mem_replaceModel_of_ne {m m' : ComponentModel} {l : List ComponentModel} (h : m' ∈ l)
    (hne : m'.component ≠ m.component) : m' ∈ replaceModel m l := by
  induction l with
  | nil => simp at h
  | cons old l ih =>
    rw [replaceModel]
    split
    · rename_i heq
      rw [beq_iff_eq] at heq
      rcases List.mem_cons.1 h with rfl | h
      · exact absurd heq hne
      · exact List.mem_cons_of_mem _ h
    · rcases List.mem_cons.1 h with rfl | h
      · exact List.mem_cons_self
      · exact List.mem_cons_of_mem _ (ih h)

theorem nodup_replaceModel {m : ComponentModel} {l : List ComponentModel}
    (hn : (l.map (·.component)).Nodup) : ((replaceModel m l).map (·.component)).Nodup := by
  induction l with
  | nil => simp [replaceModel]
  | cons old l ih =>
    have hn' := hn
    rw [List.map_cons, List.nodup_cons] at hn
    rw [replaceModel]
    split
    · rename_i heq
      rw [beq_iff_eq] at heq
      rw [List.map_cons, ← heq]
      exact hn'
    · rename_i hne
      rw [beq_iff_eq] at hne
      refine List.nodup_cons.2 ⟨fun hmem => ?_, ih hn.2⟩
      obtain ⟨m', hm', hc⟩ := List.mem_map.1 hmem
      replace hc : m'.component = old.component := hc
      rcases mem_replaceModel hn.2 hm' with rfl | ⟨hm', -⟩
      · exact hne hc.symm
      · rw [← hc] at hn
        exact hn.1 (List.mem_map_of_mem hm')

theorem find?_replaceModel (m : ComponentModel) (l : List ComponentModel) :
    (replaceModel m l).find? (·.component == m.component) = some m := by
  induction l with
  | nil => simp [replaceModel]
  | cons old l ih =>
    rw [replaceModel]
    split
    · simp
    · rename_i hne
      simp [hne, ih]

theorem replaceModel_replaceModel {m m' : ComponentModel} (h : m'.component = m.component)
    (l : List ComponentModel) : replaceModel m' (replaceModel m l) = replaceModel m' l := by
  induction l with
  | nil => simp [replaceModel, h]
  | cons old l ih =>
    rw [replaceModel]
    split
    · rename_i hold
      rw [replaceModel, replaceModel, h, hold]
      simp
    · rename_i hold
      rw [replaceModel, replaceModel, h, if_neg hold, if_neg hold, ih]

/-- Of two updates of one component the later one counts. -/
theorem update_update {w w' : CountedModel} (h : w'.model.component = w.model.component)
    (c : Clusterer) : (c.update w).update w' = c.update w' := by
  rw [update, update, update, replaceModel_replaceModel h]

/-- After an update the clusterer has the given model and the given counter. -/
theorem counted_update (c : Clusterer) {w : CountedModel} {component : String}
    (h : w.model.component = component) : (c.update w).counted component = w := by
  have hmodel : (c.update w).model? component = some w.model := h ▸ find?_replaceModel ..
  rw [counted, model, hmodel]
  rfl

@[simp] theorem rules_update (component : String) (c : Clusterer) (w : CountedModel) :
    (c.update w).rules component = c.rules component := rfl

/-! ## Following a store -/

/-- A clusterer in step with the clusters of its store. -/
structure Follows (stored : List TextCluster) (c : Clusterer) : Prop where
  nodup_components : (c.models.map (·.component)).Nodup
  models_follow : ∀ m ∈ c.models, m.Follows stored
  rules_eq : ∀ m ∈ c.models, m.rules = c.rules m.component
  id_lt : ∀ m ∈ c.models, ∀ id ∈ m.ids, id < c.counter.next
  next_eq : c.counter.next = 0 ∨ ∃ m ∈ c.models, ∃ id ∈ m.ids, id + 1 = c.counter.next

variable {stored : List TextCluster} {c : Clusterer}

theorem Follows.new {c : Clusterer} (hmodels : c.models = []) (hcounter : c.counter.next = 0)
    (stored : List TextCluster) : c.Follows stored where
  nodup_components := by simp [hmodels]
  models_follow := by simp [hmodels]
  rules_eq := by simp [hmodels]
  id_lt := by simp [hmodels]
  next_eq := .inl hcounter

theorem Follows.mono (h : c.Follows stored) {stored' : List TextCluster}
    (hg : Grows stored stored') : c.Follows stored' :=
  { h with models_follow := fun m hm => (h.models_follow m hm).mono hg }

/-- Models of one component are one. -/
theorem Follows.eq_of_component (h : c.Follows stored) {m m' : ComponentModel}
    (hm : m ∈ c.models) (hm' : m' ∈ c.models) (hc : m.component = m'.component) : m = m' :=
  List.inj_on_of_nodup_map h.nodup_components hm hm' hc

theorem Follows.model_follows (h : c.Follows stored) (component : String) :
    (c.model component).Follows stored := by
  rcases model_eq component c with ⟨hmem, -⟩ | ⟨-, hnew⟩
  · exact h.models_follow _ hmem
  · rw [hnew]
    exact .new ..

theorem Follows.model_rules (h : c.Follows stored) (component : String) :
    (c.model component).rules = c.rules component := by
  rcases model_eq component c with ⟨hmem, hc⟩ | ⟨-, hnew⟩
  · rw [h.rules_eq _ hmem, hc]
  · rw [hnew]

/-- The step of one model, while the store may grow. -/
theorem Follows.update (h : c.Follows stored) {stored' : List TextCluster}
    (hg : Grows stored stored') {w : CountedModel} {component : String}
    (hw : w.model.Follows stored') (hc : w.model.component = component)
    (hr : w.model.rules = c.rules component) (hcounts : Counts (c.counted component) w) :
    (c.update w).Follows stored' where
  nodup_components := nodup_replaceModel h.nodup_components
  models_follow m hm := by
    rcases mem_replaceModel h.nodup_components hm with rfl | ⟨hm, -⟩
    · exact hw
    · exact (h.models_follow m hm).mono hg
  rules_eq m hm := by
    rcases mem_replaceModel h.nodup_components hm with rfl | ⟨hm, -⟩
    · rw [hr, hc]
      rfl
    · exact h.rules_eq m hm
  id_lt m hm id hid := by
    have hold : ∀ m ∈ c.models, ∀ id ∈ m.ids, id < w.counter.next := fun m hm id hid =>
      Nat.lt_of_lt_of_le (h.id_lt m hm id hid) hcounts.next_le
    rcases mem_replaceModel h.nodup_components hm with rfl | ⟨hm, -⟩
    · rcases hcounts.id_lt id hid with hid | hlt
      · rcases model_eq component c with ⟨hmem, -⟩ | ⟨-, hnew⟩
        · exact hold _ hmem id hid
        · have hid' : id ∈ (c.model component).ids := hid
          rw [hnew] at hid'
          simp at hid'
      · exact hlt
    · exact hold m hm id hid
  next_eq := by
    rcases hcounts.next_eq with heq | ⟨id, hid, hnext⟩
    · show w.counter.next = 0 ∨ _
      rw [heq]
      refine h.next_eq.imp_right fun ⟨m, hm, id, hid, hnext⟩ => ?_
      by_cases hmc : m.component = component
      · -- the model that held the greatest id is the one that was replaced
        have hmodel : c.model component = m := by
          rcases model_eq component c with ⟨hmem, hcomp⟩ | ⟨hnone, -⟩
          · exact h.eq_of_component hmem hm (hcomp.trans hmc.symm)
          · exact absurd hmc (hnone m hm)
        refine ⟨w.model, mem_replaceModel_self .., id, hcounts.kept id ?_, ?_⟩
        · show id ∈ (c.model component).ids
          rwa [hmodel]
        · exact hnext.trans heq.symm
      · exact ⟨m, mem_replaceModel_of_ne hm (hc ▸ hmc), id, hid, hnext.trans heq.symm⟩
    · exact .inr ⟨w.model, mem_replaceModel_self .., id, hid, hnext⟩

theorem mem_held_update (h : c.Follows stored) {w : CountedModel} {x : TextCluster}
    (hx : x ∈ (c.update w).held) : x ∈ w.model.clusters ∨ x ∈ c.held := by
  obtain ⟨m, hm, hxm⟩ := mem_held.1 hx
  rcases mem_replaceModel h.nodup_components hm with rfl | ⟨hm, -⟩
  · exact .inl hxm
  · exact .inr (mem_held.2 ⟨m, hm, hxm⟩)

/-! ## Loading a store -/

/-- The model of the cluster's component knows the cluster. -/
def Knows (x : TextCluster) (c : Clusterer) : Prop :=
  ∃ m ∈ c.models, m.component = x.component ∧ x.id ∈ m.ids

theorem Follows.absorb (h : c.Follows stored) {x : TextCluster} (hx : x ∈ stored) :
    (c.absorb x).Follows stored := by
  have hc : ((c.counted x.component).absorb x).model.component = x.component := by
    rw [absorb_component]
    exact model_component ..
  refine h.update (Grows.refl _) (follows_absorb (h.model_follows _) hx ?_) hc ?_
    (counts_absorb ..)
  · exact (model_component ..).symm
  · rw [absorb_rules]
    exact h.model_rules _

theorem knows_absorb_self (x : TextCluster) (c : Clusterer) : (c.absorb x).Knows x := by
  refine ⟨_, mem_replaceModel_self .., ?_, mem_ids_absorb.2 (.inr rfl)⟩
  rw [absorb_component]
  exact model_component ..

theorem knows_absorb (h : c.Follows stored) {x y : TextCluster} (hy : c.Knows y) :
    (c.absorb x).Knows y := by
  obtain ⟨m, hm, hmc, hid⟩ := hy
  have hcomp : ((c.counted x.component).absorb x).model.component = x.component := by
    rw [absorb_component]
    exact model_component ..
  by_cases hxy : m.component = x.component
  · refine ⟨_, mem_replaceModel_self .., hcomp.trans (hxy.symm.trans hmc), ?_⟩
    have hmodel : c.model x.component = m := by
      rcases model_eq x.component c with ⟨hmem, hc⟩ | ⟨hnone, -⟩
      · exact h.eq_of_component hmem hm (hc.trans hxy.symm)
      · exact absurd hxy (hnone m hm)
    refine mem_ids_absorb.2 (.inl ?_)
    show y.id ∈ (c.model x.component).ids
    rwa [hmodel]
  · exact ⟨m, mem_replaceModel_of_ne hm (by rwa [hcomp]), hmc, hid⟩

theorem mem_held_absorb (h : c.Follows stored) {x y : TextCluster}
    (hy : y ∈ (c.absorb x).held) : y = x ∨ y ∈ c.held := by
  rcases mem_held_update h hy with hy | hy
  · obtain ⟨fresh, hfresh, hx⟩ := absorb_entries (c.counted x.component) x
    obtain ⟨e, he, rfl⟩ := List.mem_map.1 hy
    rw [hfresh] at he
    rcases List.mem_append.1 he with he | he
    · exact .inr (mem_held_of_model (ComponentModel.mem_clusters he))
    · exact .inl (hx e he)
  · exact .inr hy

theorem foldl_absorb (h : c.Follows stored) {loaded : List TextCluster}
    (hl : ∀ x ∈ loaded, x ∈ stored) :
    (loaded.foldl Clusterer.absorb c).Follows stored ∧
      (∀ x, x ∈ loaded ∨ c.Knows x → (loaded.foldl Clusterer.absorb c).Knows x) ∧
      ∀ y ∈ (loaded.foldl Clusterer.absorb c).held, y ∈ loaded ∨ y ∈ c.held := by
  induction loaded generalizing c with
  | nil => exact ⟨h, fun x hx => hx.resolve_left List.not_mem_nil, fun y hy => .inr hy⟩
  | cons x loaded ih =>
    obtain ⟨hf, hk, hh⟩ := ih (h.absorb (hl x List.mem_cons_self))
      fun y hy => hl y (List.mem_cons_of_mem _ hy)
    refine ⟨hf, fun y hy => hk y ?_, fun y hy => ?_⟩
    · rcases hy with hy | hy
      · rcases List.mem_cons.1 hy with rfl | hy
        · exact .inr (knows_absorb_self ..)
        · exact .inl hy
      · exact .inr (knows_absorb h hy)
    · rcases hh y hy with hy | hy
      · exact .inl (List.mem_cons_of_mem _ hy)
      · refine (mem_held_absorb h hy).imp_left fun hyx => ?_
        rw [hyx]
        exact List.mem_cons_self

@[simp] theorem rules_takeIn (component : String) (c : Clusterer) (loaded : List TextCluster) :
    (c.takeIn loaded).rules component = c.rules component := by
  have : ∀ c : Clusterer,
      (loaded.foldl Clusterer.absorb c).rules component = c.rules component := by
    induction loaded with
    | nil => exact fun _ => rfl
    | cons x loaded ih => exact fun c => (ih (c.absorb x)).trans (rules_update ..)
  exact this c

/-- Whoever loads the whole store knows all of it. -/
theorem Follows.takeIn (h : c.Follows stored) {loaded : List TextCluster}
    (hl : loaded.Perm stored) : (c.takeIn loaded).Follows stored := by
  obtain ⟨hf, hk, -⟩ := foldl_absorb h fun x hx => hl.mem_iff.1 hx
  have hknows : ∀ m ∈ (loaded.foldl Clusterer.absorb c).models, ∀ x ∈ stored,
      x.component = m.component → x.id ∈ m.ids := fun m hm x hx hc => by
    obtain ⟨m', hm', hmc, hid⟩ := hk x (.inl (hl.mem_iff.2 hx))
    rwa [hf.eq_of_component hm hm' (hc.symm.trans hmc.symm)]
  have hnext : (c.takeIn loaded).counter.next = (loaded.foldl Clusterer.absorb c).counter.next := by
    have hle : idRank (LogAnomaly.greatestId loaded) ≤
        (loaded.foldl Clusterer.absorb c).counter.next :=
      idRank_greatestId_le_iff.2 fun x hx => by
        obtain ⟨m, hm, -, hid⟩ := hk x (.inl hx)
        exact hf.id_lt m hm _ hid
    unfold Clusterer.takeIn
    cases hg : LogAnomaly.greatestId loaded with
    | none => rfl
    | some id =>
      rw [hg] at hle
      exact Nat.max_eq_left hle
  exact {
    nodup_components := by
      have : (c.takeIn loaded).models.map (·.component) =
          (loaded.foldl Clusterer.absorb c).models.map (·.component) := by
        simp [Clusterer.takeIn, Function.comp_def, ComponentModel.catchUpTo]
      rw [this]
      exact hf.nodup_components
    models_follow := fun m' hm' => by
      obtain ⟨m, hm, rfl⟩ := List.mem_map.1 hm'
      rw [greatestId_perm hl]
      exact (hf.models_follow m hm).catchUpTo (Nat.le_refl _) fun x hx hc _ => hknows m hm x hx hc
    rules_eq := fun m' hm' => by
      obtain ⟨m, hm, rfl⟩ := List.mem_map.1 hm'
      exact hf.rules_eq m hm
    id_lt := fun m' hm' id hid => by
      obtain ⟨m, hm, rfl⟩ := List.mem_map.1 hm'
      rw [hnext]
      exact hf.id_lt m hm id hid
    next_eq := by
      rw [hnext]
      rcases hf.next_eq with hzero | ⟨m, hm, id, hid, hlt⟩
      · exact .inl hzero
      · exact .inr ⟨_, List.mem_map_of_mem hm, id, hid, hlt⟩ }

theorem mem_held_takeIn (h : c.Follows stored) {loaded : List TextCluster}
    (hl : loaded.Perm stored) {y : TextCluster} (hy : y ∈ (c.takeIn loaded).held) :
    y ∈ stored ∨ y ∈ c.held := by
  obtain ⟨m', hm', hym⟩ := mem_held.1 hy
  obtain ⟨m, hm, rfl⟩ := List.mem_map.1 hm'
  obtain ⟨-, -, hh⟩ := foldl_absorb h fun x hx => hl.mem_iff.1 hx
  exact (hh y (mem_held.2 ⟨m, hm, hym⟩)).imp_left hl.mem_iff.1

/-! ## What follows from following -/

theorem Follows.mem_ids_of_held (h : c.Follows stored) {x : TextCluster} (hx : x ∈ c.held) :
    ∃ m ∈ c.models, x ∈ m.clusters ∧ x.id ∈ m.ids := by
  obtain ⟨m, hm, hxm⟩ := mem_held.1 hx
  exact ⟨m, hm, hxm, ((h.models_follow m hm).mem_ids _).2 ⟨x, hxm, rfl⟩⟩

theorem Follows.held_backed (h : c.Follows stored) {x : TextCluster} (hx : x ∈ c.held) :
    ∃ y ∈ stored, y.identity = x.identity := by
  obtain ⟨m, hm, hxm⟩ := mem_held.1 hx
  exact (h.models_follow m hm).backed x hxm

/-- No two clusters of a clusterer share an id, since the stored ones do not. -/
theorem Follows.nodup_held (h : c.Follows stored) (hs : IdsAscending stored) :
    (c.held.map (·.id)).Nodup := by
  rw [held, List.map_flatMap]
  refine List.nodup_flatMap.2 ⟨fun m hm => (h.models_follow m hm).nodup, ?_⟩
  have hne : c.models.Pairwise fun m m' => m.component ≠ m'.component :=
    List.pairwise_map.1 h.nodup_components
  refine hne.imp_of_mem fun {m m'} hm hm' hcomp => ?_
  show List.Disjoint _ _
  intro id hid hid'
  obtain ⟨x, hx, rfl⟩ := List.mem_map.1 hid
  obtain ⟨x', hx', heq⟩ := List.mem_map.1 hid'
  obtain ⟨y, hy, hyx⟩ := (h.models_follow m hm).backed x hx
  obtain ⟨y', hy', hyx'⟩ := (h.models_follow m' hm').backed x' hx'
  have hyy : y = y' := hs.eq_of_id hy hy' (by
    rw [TextCluster.id_eq_of_identity hyx, TextCluster.id_eq_of_identity hyx', heq])
  refine hcomp ?_
  rw [← (h.models_follow m hm).component_eq x hx, ← (h.models_follow m' hm').component_eq x' hx',
    ← (TextCluster.identity_eq_iff.1 hyx).2.1, ← (TextCluster.identity_eq_iff.1 hyx').2.1, hyy]

/-- The counter lies no farther than that of the store. -/
theorem Follows.next_le (h : c.Follows stored) :
    c.counter.next ≤ idRank (LogAnomaly.greatestId stored) := by
  rcases h.next_eq with hzero | ⟨m, hm, id, hid, hnext⟩
  · omega
  · rw [← hnext]
    exact (h.models_follow m hm).id_lt hid

theorem Follows.next_eq_idRank (h : c.Follows stored) :
    c.counter.next = idRank (LogAnomaly.greatestId c.held) := by
  refine Nat.le_antisymm ?_ (idRank_greatestId_le_iff.2 fun x hx => ?_)
  · rcases h.next_eq with hzero | ⟨m, hm, id, hid, hnext⟩
    · omega
    · obtain ⟨x, hx, rfl⟩ := ((h.models_follow m hm).mem_ids id).1 hid
      rw [← hnext]
      exact id_lt_greatestId (mem_held.2 ⟨m, hm, hx⟩)
  · obtain ⟨m, hm, -, hid⟩ := h.mem_ids_of_held hx
    exact h.id_lt m hm _ hid

/-- The counter tells the greatest id that any model holds. -/
theorem Follows.greatestId_eq (h : c.Follows stored) :
    c.greatestId = LogAnomaly.greatestId c.held := by
  have hnext := h.next_eq_idRank
  unfold Clusterer.greatestId IdCounter.greatestAssigned
  rw [hnext]
  cases LogAnomaly.greatestId c.held with
  | none => rfl
  | some id => simp

end LogAnomaly.Clusterer
