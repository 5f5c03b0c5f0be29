import LogAnomaly.Proofs.Cluster.Component

/-!
# Catching up with a store

* `CountedModel.merge_entries`, `CountedModel.mem_ids_merge`: clusters of others come behind the
  known ones, each once;
* `CountedModel.caughtUp`: the model after it has caught up with the clusters of a store, all of
  which it then knows (`caughtUp_knows`);
* `CountedModel.Counts`: ids and counter move together.
-/

namespace LogAnomaly

namespace CountedModel

variable {stored : List TextCluster} {w : CountedModel}

/-! ## Absorbing one cluster -/

theorem absorb_known {c : TextCluster} (h : c.id ∈ w.model.ids) : w.absorb c = w := by
  rw [absorb, if_pos (List.contains_iff_mem.2 h)]

theorem absorb_unknown {c : TextCluster} (h : c.id ∉ w.model.ids) :
    w.absorb c =
      { model := { w.model with
          entries := w.model.entries ++ [⟨c, w.model.rules.fingerprint c.representative⟩]
          ids := c.id :: w.model.ids }
        counter := w.counter.reserve c.id } := by
  rw [absorb, if_neg (by simpa using h)]

@[simp] theorem absorb_component (w : CountedModel) (c : TextCluster) :
    (w.absorb c).model.component = w.model.component := by
  unfold absorb; split <;> rfl

@[simp] theorem absorb_rules (w : CountedModel) (c : TextCluster) :
    (w.absorb c).model.rules = w.model.rules := by
  unfold absorb; split <;> rfl

theorem mem_ids_absorb {c : TextCluster} {id : Nat} :
    id ∈ (w.absorb c).model.ids ↔ id ∈ w.model.ids ∨ c.id = id := by
  by_cases h : c.id ∈ w.model.ids
  · rw [absorb_known h]
    exact ⟨.inl, fun hid => hid.elim (fun hid => hid) fun heq => heq ▸ h⟩
  · rw [absorb_unknown h, List.mem_cons, or_comm, eq_comm]

theorem absorb_entries (w : CountedModel) (c : TextCluster) :
    ∃ fresh, (w.absorb c).model.entries = w.model.entries ++ fresh ∧
      ∀ e ∈ fresh, e.cluster = c := by
  by_cases h : c.id ∈ w.model.ids
  · exact ⟨[], by rw [absorb_known h, List.append_nil], by simp⟩
  · exact ⟨_, by rw [absorb_unknown h], by simp⟩

theorem follows_absorb (h : w.model.Follows stored) {c : TextCluster} (hc : c ∈ stored)
    (hcomp : c.component = w.model.component) : (w.absorb c).model.Follows stored := by
  by_cases hid : c.id ∈ w.model.ids
  · rwa [absorb_known hid]
  rw [absorb_unknown hid]
  have hclusters : ∀ m' : ComponentModel, m'.entries = w.model.entries ++
      [⟨c, w.model.rules.fingerprint c.representative⟩] → m'.clusters = w.model.clusters ++ [c] :=
    fun m' he => by simp [ComponentModel.clusters, he]
  rw [h.mem_ids] at hid
  exact {
    nodup := by
      rw [hclusters _ rfl, List.map_append, List.map_singleton, List.nodup_append]
      refine ⟨h.nodup, List.nodup_singleton _, fun id hmem id' hid' heq => ?_⟩
      obtain ⟨d, hd, hdid⟩ := List.mem_map.1 hmem
      exact hid ⟨d, hd, by rw [hdid, heq, List.mem_singleton.1 hid']⟩
    mem_ids := fun id => by
      rw [hclusters _ rfl, List.mem_cons, h.mem_ids]
      simp [or_and_right, exists_or, or_comm, eq_comm]
    fingerprint_eq := fun e he => by
      rcases List.mem_append.1 he with he | he
      · exact h.fingerprint_eq e he
      · obtain rfl := List.mem_singleton.1 he
        rfl
    component_eq := fun d hd => by
      rw [hclusters _ rfl] at hd
      rcases List.mem_append.1 hd with hd | hd
      · exact h.component_eq d hd
      · obtain rfl := List.mem_singleton.1 hd
        exact hcomp
    backed := fun d hd => by
      rw [hclusters _ rfl] at hd
      rcases List.mem_append.1 hd with hd | hd
      · exact h.backed d hd
      · obtain rfl := List.mem_singleton.1 hd
        exact ⟨d, hc, rfl⟩
    knownUpTo_le := h.knownUpTo_le
    known := fun x hx hxc hlt => List.mem_cons_of_mem _ (h.known x hx hxc hlt) }

/-! ## Merging -/

theorem merge_cons (c : TextCluster) (cs : List TextCluster) (w : CountedModel) :
    w.merge (c :: cs) = (w.absorb c).merge cs := rfl

@[simp] theorem merge_component (cs : List TextCluster) (w : CountedModel) :
    (w.merge cs).model.component = w.model.component := by
  induction cs generalizing w with
  | nil => rfl
  | cons c cs ih => rw [merge_cons, ih, absorb_component]

@[simp] theorem merge_rules (cs : List TextCluster) (w : CountedModel) :
    (w.merge cs).model.rules = w.model.rules := by
  induction cs generalizing w with
  | nil => rfl
  | cons c cs ih => rw [merge_cons, ih, absorb_rules]

theorem mem_ids_merge {cs : List TextCluster} {id : Nat} :
    id ∈ (w.merge cs).model.ids ↔ id ∈ w.model.ids ∨ ∃ c ∈ cs, c.id = id := by
  induction cs generalizing w with
  | nil => simp [merge]
  | cons c cs ih => rw [merge_cons, ih, mem_ids_absorb]; simp [or_assoc]

/-- What is merged comes behind the clusters that were there. -/
theorem merge_entries (cs : List TextCluster) (w : CountedModel) :
    ∃ fresh, (w.merge cs).model.entries = w.model.entries ++ fresh ∧
      ∀ e ∈ fresh, e.cluster ∈ cs := by
  induction cs generalizing w with
  | nil => exact ⟨[], (List.append_nil _).symm, by simp⟩
  | cons c cs ih =>
    obtain ⟨one, hone, hc⟩ := absorb_entries w c
    obtain ⟨more, hmore, hcs⟩ := ih (w.absorb c)
    refine ⟨one ++ more, ?_, fun e he => ?_⟩
    · rw [merge_cons, hmore, hone, List.append_assoc]
    · rcases List.mem_append.1 he with he | he
      · exact hc e he ▸ List.mem_cons_self
      · exact List.mem_cons_of_mem _ (hcs e he)

/-- Known clusters change nothing. -/
theorem merge_known {cs : List TextCluster} (h : ∀ c ∈ cs, c.id ∈ w.model.ids) :
    w.merge cs = w := by
  induction cs with
  | nil => rfl
  | cons c cs ih =>
    rw [merge_cons, absorb_known (h c List.mem_cons_self)]
    exact ih fun d hd => h d (List.mem_cons_of_mem _ hd)

theorem follows_merge {cs : List TextCluster} (h : w.model.Follows stored)
    (hcs : ∀ c ∈ cs, c ∈ stored ∧ c.component = w.model.component) :
    (w.merge cs).model.Follows stored := by
  induction cs generalizing w with
  | nil => exact h
  | cons c cs ih =>
    obtain ⟨hc, hcomp⟩ := hcs c List.mem_cons_self
    refine ih (follows_absorb h hc hcomp) fun d hd => ?_
    rw [absorb_component]
    exact hcs d (List.mem_cons_of_mem _ hd)

/-! ## Catching up -/

/-- The model after it has caught up with the clusters of a store. -/
def caughtUp (stored : List TextCluster) (w : CountedModel) : CountedModel :=
  let merged := w.merge (selectClusters w.model.component w.model.knownUpTo stored)
  { merged with model := merged.model.catchUpTo (greatestId stored) }

@[simp] theorem caughtUp_component (stored : List TextCluster) (w : CountedModel) :
    (w.caughtUp stored).model.component = w.model.component :=
  merge_component ..

@[simp] theorem caughtUp_rules (stored : List TextCluster) (w : CountedModel) :
    (w.caughtUp stored).model.rules = w.model.rules :=
  merge_rules ..

/-- A model that knows the store up to its greatest id has caught up with it. -/
theorem caughtUp_eq_self (h : idRank (greatestId stored) ≤ idRank w.model.knownUpTo) :
    w.caughtUp stored = w := by
  have hlater : laterId w.model.knownUpTo (greatestId stored) = w.model.knownUpTo := by
    rw [laterId, if_neg (by omega)]
  rw [caughtUp, selectClusters_eq_nil h]
  simp only [merge, List.foldl_nil, ComponentModel.catchUpTo, hlater]

theorem caughtUp_entries (stored : List TextCluster) (w : CountedModel) :
    ∃ fresh, (w.caughtUp stored).model.entries = w.model.entries ++ fresh ∧
      ∀ e ∈ fresh, e.cluster ∈ stored := by
  obtain ⟨fresh, hfresh, hmem⟩ :=
    merge_entries (selectClusters w.model.component w.model.knownUpTo stored) w
  exact ⟨fresh, hfresh, fun e he => (mem_selectClusters.1 (hmem e he)).1⟩

theorem greatestId_le_caughtUp (stored : List TextCluster) (w : CountedModel) :
    idRank (greatestId stored) ≤ idRank (w.caughtUp stored).model.knownUpTo := by
  show _ ≤ idRank (laterId _ (greatestId stored))
  rw [idRank_laterId]
  exact Nat.le_max_right ..

/-- Every stored cluster of its component is known to a model that has caught up. -/
theorem caughtUp_knows (h : w.model.Follows stored) {x : TextCluster} (hx : x ∈ stored)
    (hc : x.component = w.model.component) : x.id ∈ (w.caughtUp stored).model.ids := by
  show x.id ∈ (w.merge _).model.ids
  rw [mem_ids_merge]
  rcases Nat.lt_or_ge x.id (idRank w.model.knownUpTo) with hold | hnew
  · exact .inl (h.known x hx hc hold)
  · exact .inr ⟨x, mem_selectClusters.2 ⟨hx, hc, hnew⟩, rfl⟩

theorem follows_caughtUp (h : w.model.Follows stored) :
    (w.caughtUp stored).model.Follows stored := by
  refine (follows_merge h fun c hc => ?_).catchUpTo (Nat.le_refl _) fun x hx hc _ => ?_
  · obtain ⟨hmem, hcomp, -⟩ := mem_selectClusters.1 hc
    exact ⟨hmem, hcomp⟩
  · rw [merge_component] at hc
    exact caughtUp_knows h hx hc

/-- A model that has caught up takes in the cluster that the store has made for it. -/
theorem follows_adopt (h : w.model.Follows stored)
    (hall : ∀ x ∈ stored, x.component = w.model.component → x.id ∈ w.model.ids) {o : Observation}
    (ho : o.fingerprint = w.model.rules.fingerprint o.text) :
    (w.adopt (idRank (greatestId stored)) o).model.Follows
      (stored ++ [newCluster (greatestId stored) w.model.component o.text o.day]) := by
  refine (h.putInFront ho).catchUpTo ?_ fun x hx hc _ => ?_
  · rw [idRank_greatestId_concat]
    exact Nat.le_refl _
  · rcases List.mem_append.1 hx with hx | hx
    · exact List.mem_cons_of_mem _ (hall x hx hc)
    · obtain rfl := List.mem_singleton.1 hx
      exact List.mem_cons_self

/-! ## The counter -/

/-- A step after which the counter lies beyond all new ids, and no farther than it has to. -/
structure Counts (w w' : CountedModel) : Prop where
  kept : ∀ id ∈ w.model.ids, id ∈ w'.model.ids
  next_le : w.counter.next ≤ w'.counter.next
  id_lt : ∀ id ∈ w'.model.ids, id ∈ w.model.ids ∨ id < w'.counter.next
  next_eq : w'.counter.next = w.counter.next ∨ ∃ id ∈ w'.model.ids, id + 1 = w'.counter.next

theorem Counts.of_ids {w w' : CountedModel} (hids : w'.model.ids = w.model.ids)
    (hcounter : w'.counter = w.counter) : Counts w w' where
  kept _ hid := hids ▸ hid
  next_le := hcounter ▸ Nat.le_refl _
  id_lt _ hid := .inl (hids ▸ hid)
  next_eq := .inl (hcounter ▸ rfl)

theorem Counts.trans {w₁ w₂ w₃ : CountedModel} (h : Counts w₁ w₂) (h' : Counts w₂ w₃) :
    Counts w₁ w₃ where
  kept id hid := h'.kept id (h.kept id hid)
  next_le := Nat.le_trans h.next_le h'.next_le
  id_lt id hid := by
    rcases h'.id_lt id hid with hid | hlt
    · exact (h.id_lt id hid).imp_right fun hlt => Nat.lt_of_lt_of_le hlt h'.next_le
    · exact .inr hlt
  next_eq := by
    rcases h'.next_eq with heq | hnew
    · rw [heq]
      exact h.next_eq.imp_right fun ⟨id, hid, hnext⟩ => ⟨id, h'.kept id hid, hnext⟩
    · exact .inr hnew

/-- One new id, which the counter reserves. -/
theorem Counts.reserve {w w' : CountedModel} {id : Nat} (hids : w'.model.ids = id :: w.model.ids)
    (hcounter : w'.counter = w.counter.reserve id) : Counts w w' where
  kept i hi := by
    rw [hids]
    exact List.mem_cons_of_mem _ hi
  next_le := by
    rw [hcounter]
    exact Nat.le_max_left ..
  id_lt i hi := by
    rw [hids] at hi
    rcases List.mem_cons.1 hi with rfl | hi
    · rw [hcounter]
      exact .inr (Nat.le_max_right ..)
    · exact .inl hi
  next_eq := by
    rw [hcounter, hids]
    rcases Nat.le_total w.counter.next (id + 1) with hle | hle
    · exact .inr ⟨id, List.mem_cons_self, (Nat.max_eq_right hle).symm⟩
    · exact .inl (Nat.max_eq_left hle)

theorem counts_absorb (w : CountedModel) (c : TextCluster) : Counts w (w.absorb c) := by
  by_cases h : c.id ∈ w.model.ids
  · rw [absorb_known h]
    exact .of_ids rfl rfl
  · rw [absorb_unknown h]
    exact .reserve rfl rfl

theorem counts_merge (cs : List TextCluster) (w : CountedModel) : Counts w (w.merge cs) := by
  induction cs generalizing w with
  | nil => exact .of_ids rfl rfl
  | cons c cs ih => exact (counts_absorb w c).trans (ih _)

theorem counts_caughtUp (stored : List TextCluster) (w : CountedModel) :
    Counts w (w.caughtUp stored) :=
  (counts_merge _ w).trans (.of_ids rfl rfl)

/-- A counter that catches up gets no farther than the store. -/
theorem next_caughtUp_le (h : w.model.Follows stored)
    (hle : w.counter.next ≤ idRank (greatestId stored)) :
    (w.caughtUp stored).counter.next ≤ idRank (greatestId stored) := by
  rcases (counts_caughtUp stored w).next_eq with heq | ⟨id, hid, hnext⟩
  · rwa [heq]
  · rw [← hnext]
    exact (follows_caughtUp h).id_lt hid

theorem counts_adopt (id : Nat) (o : Observation) (w : CountedModel) :
    Counts w (w.adopt id o) :=
  .reserve rfl rfl

end CountedModel

end LogAnomaly
