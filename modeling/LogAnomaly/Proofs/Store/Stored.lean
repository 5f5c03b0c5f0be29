import LogAnomaly.Store.Basic
import Mathlib.Data.List.Nodup

/-!
# Lists of stored clusters

The clusters of a store, in the order in which they were inserted.

* `TextCluster.identity`: all of a cluster but its day, which is the only part that ever changes;
* `IdsAscending`: the ids grow from cluster to cluster, since a new one gets the id after the
  greatest (`IdsAscending.concat`);
* `touchFirst_eq_some`, `touchFirst_eq_none_iff`: what recording a day does;
* `Grows`: what one list has been, a later one still is, and its new clusters have greater ids.
-/

namespace LogAnomaly

/-- What a cluster keeps forever: its id, its component and its representative. -/
def TextCluster.identity (c : TextCluster) : Nat × String × String :=
  (c.id, c.component, c.representative)

theorem TextCluster.identity_eq_iff {c d : TextCluster} :
    c.identity = d.identity ↔
      c.id = d.id ∧ c.component = d.component ∧ c.representative = d.representative := by
  simp [identity]

theorem TextCluster.id_eq_of_identity {c d : TextCluster} (h : c.identity = d.identity) :
    c.id = d.id := (identity_eq_iff.1 h).1

/-! ## Greatest ids -/

@[simp] theorem idRank_some (id : Nat) : idRank (some id) = id + 1 := rfl

@[simp] theorem idRank_none : idRank none = 0 := rfl

theorem idRank_injective {a b : Option Nat} (h : idRank a = idRank b) : a = b := by
  cases a <;> cases b <;> simp_all

theorem idRank_laterId (a b : Option Nat) : idRank (laterId a b) = max (idRank a) (idRank b) := by
  unfold laterId
  split <;> omega

/-- The place of the greatest id is the least one that comes after all ids. -/
theorem idRank_greatestId_le_iff {cs : List TextCluster} {n : Nat} :
    idRank (greatestId cs) ≤ n ↔ ∀ c ∈ cs, c.id < n := by
  unfold greatestId
  cases h : (cs.map (·.id)).max? with
  | none =>
    have hnil : cs = [] := by simpa using List.max?_eq_none_iff.1 h
    simp [hnil]
  | some id =>
    obtain ⟨hmem, hle⟩ := List.max?_eq_some_iff.1 h
    simp only [List.mem_map, forall_exists_index, and_imp, forall_apply_eq_imp_iff₂] at hmem hle
    obtain ⟨c, hc, rfl⟩ := hmem
    exact ⟨fun hn d hd => Nat.lt_of_le_of_lt (hle d hd) hn, fun hall => hall c hc⟩

theorem id_lt_greatestId {cs : List TextCluster} {c : TextCluster} (h : c ∈ cs) :
    c.id < idRank (greatestId cs) :=
  idRank_greatestId_le_iff.1 (Nat.le_refl _) c h

/-- A list whose ids are among those of another one has no greater greatest id. -/
theorem greatestId_le_of_ids {cs ds : List TextCluster} (h : ∀ c ∈ cs, ∃ d ∈ ds, d.id = c.id) :
    idRank (greatestId cs) ≤ idRank (greatestId ds) := by
  refine idRank_greatestId_le_iff.2 fun c hc => ?_
  obtain ⟨d, hd, hid⟩ := h c hc
  exact hid ▸ id_lt_greatestId hd

theorem greatestId_perm {cs ds : List TextCluster} (h : cs.Perm ds) :
    greatestId cs = greatestId ds := by
  refine idRank_injective (Nat.le_antisymm ?_ ?_) <;>
    refine greatestId_le_of_ids fun c hc => ⟨c, ?_, rfl⟩
  · exact h.mem_iff.1 hc
  · exact h.mem_iff.2 hc

theorem mem_selectClusters {component : String} {after : Option Nat} {cs : List TextCluster}
    {c : TextCluster} :
    c ∈ selectClusters component after cs ↔
      c ∈ cs ∧ c.component = component ∧ idRank after ≤ c.id := by
  simp [selectClusters]

/-- There is nothing to select after the greatest id. -/
theorem selectClusters_eq_nil {component : String} {after : Option Nat} {cs : List TextCluster}
    (h : idRank (greatestId cs) ≤ idRank after) : selectClusters component after cs = [] := by
  refine List.eq_nil_iff_forall_not_mem.2 fun c hc => ?_
  obtain ⟨hmem, -, hle⟩ := mem_selectClusters.1 hc
  have := id_lt_greatestId hmem
  omega

/-! ## Ascending ids -/

/-- The ids of a list grow from cluster to cluster. -/
def IdsAscending (cs : List TextCluster) : Prop := cs.Pairwise fun c d => c.id < d.id

theorem IdsAscending.eq_of_id {cs : List TextCluster} (h : IdsAscending cs) {c d : TextCluster}
    (hc : c ∈ cs) (hd : d ∈ cs) (hid : c.id = d.id) : c = d := by
  have hn : (cs.map (·.id)).Nodup :=
    List.pairwise_map.2 (h.imp fun hlt => Nat.ne_of_lt hlt)
  exact List.inj_on_of_nodup_map hn hc hd hid

theorem IdsAscending.concat {cs : List TextCluster} (h : IdsAscending cs)
    (component text : String) (day : Day) :
    IdsAscending (cs ++ [newCluster (greatestId cs) component text day]) := by
  refine List.pairwise_append.2 ⟨h, List.pairwise_singleton .., fun c hc d hd => ?_⟩
  obtain rfl := List.mem_singleton.1 hd
  exact id_lt_greatestId hc

/-- Only the new cluster has the new id. -/
theorem eq_newCluster {cs : List TextCluster} {component text : String} {day : Day}
    {c : TextCluster} (hc : c ∈ cs ++ [newCluster (greatestId cs) component text day])
    (hid : c.id = idRank (greatestId cs)) : c = newCluster (greatestId cs) component text day := by
  rcases List.mem_append.1 hc with hold | hnew
  · have := id_lt_greatestId hold
    omega
  · exact List.mem_singleton.1 hnew

theorem idRank_greatestId_concat (cs : List TextCluster) (component text : String) (day : Day) :
    idRank (greatestId (cs ++ [newCluster (greatestId cs) component text day])) =
      idRank (greatestId cs) + 1 := by
  refine Nat.le_antisymm (idRank_greatestId_le_iff.2 fun c hc => ?_) ?_
  · rcases List.mem_append.1 hc with hc | hc
    · exact Nat.lt_succ_of_lt (id_lt_greatestId hc)
    · obtain rfl := List.mem_singleton.1 hc
      exact Nat.lt_succ_self _
  · have hnew : newCluster (greatestId cs) component text day ∈
        cs ++ [newCluster (greatestId cs) component text day] := by simp
    exact id_lt_greatestId hnew

/-! ## Recording a day -/

/-- The cluster with its day brought forward. -/
def TextCluster.observedOn (day : Day) (c : TextCluster) : TextCluster :=
  { c with lastObserved := c.lastObserved.latest day }

@[simp] theorem TextCluster.observedOn_id (day : Day) (c : TextCluster) :
    (c.observedOn day).id = c.id := rfl

@[simp] theorem TextCluster.observedOn_identity (day : Day) (c : TextCluster) :
    (c.observedOn day).identity = c.identity := rfl

@[simp] theorem TextCluster.observedOn_lastObserved (day : Day) (c : TextCluster) :
    (c.observedOn day).lastObserved = c.lastObserved.latest day := rfl

/-- Recording a day that is not later changes nothing. -/
theorem TextCluster.observedOn_eq_self {c : TextCluster} {day : Day} (h : ¬ c.lastObserved < day) :
    c.observedOn day = c := by
  rw [observedOn, Day.latest, if_neg h]

theorem touchFirst_eq_none_iff {id : Nat} {day : Day} {cs : List TextCluster} :
    touchFirst id day cs = none ↔ ∀ c ∈ cs, c.id ≠ id := by
  induction cs with
  | nil => simp [touchFirst]
  | cons c cs ih =>
    rw [touchFirst]
    split
    · rename_i hid
      simp [hid]
    · rename_i hid
      simp [hid, ih]

/-- Recording a day changes the first cluster with the id, and only its day. -/
theorem touchFirst_eq_some {id : Nat} {day : Day} {cs cs' : List TextCluster}
    (h : touchFirst id day cs = some cs') :
    ∃ before c after, cs = before ++ c :: after ∧ c.id = id ∧
      cs' = before ++ c.observedOn day :: after := by
  induction cs generalizing cs' with
  | nil => simp [touchFirst] at h
  | cons c cs ih =>
    rw [touchFirst] at h
    split at h
    · rename_i hid
      obtain rfl := Option.some.inj h
      exact ⟨[], c, cs, rfl, hid, rfl⟩
    · obtain ⟨ds, hds, rfl⟩ := Option.map_eq_some_iff.1 h
      obtain ⟨before, d, after, rfl, hid, rfl⟩ := ih hds
      exact ⟨c :: before, d, after, rfl, hid, rfl⟩

theorem mem_touchFirst {id : Nat} {day : Day} {cs cs' : List TextCluster}
    (h : touchFirst id day cs = some cs') {c' : TextCluster} (hc' : c' ∈ cs') :
    c' ∈ cs ∨ ∃ c ∈ cs, c.id = id ∧ c' = c.observedOn day := by
  obtain ⟨before, c, after, rfl, hid, rfl⟩ := touchFirst_eq_some h
  rcases List.mem_append.1 hc' with hmem | hmem
  · exact .inl (List.mem_append_left _ hmem)
  · rcases List.mem_cons.1 hmem with rfl | hmem
    · exact .inr ⟨c, by simp, hid, rfl⟩
    · exact .inl (by simp [hmem])

theorem map_identity_touchFirst {id : Nat} {day : Day} {cs cs' : List TextCluster}
    (h : touchFirst id day cs = some cs') :
    cs'.map TextCluster.identity = cs.map TextCluster.identity := by
  obtain ⟨before, c, after, rfl, -, rfl⟩ := touchFirst_eq_some h
  simp

theorem IdsAscending.of_map_identity {cs cs' : List TextCluster} (h : IdsAscending cs)
    (hmap : cs'.map TextCluster.identity = cs.map TextCluster.identity) : IdsAscending cs' := by
  have key : ∀ ds : List TextCluster,
      IdsAscending ds ↔ (ds.map TextCluster.identity).Pairwise fun a b => a.1 < b.1 := fun ds => by
    rw [List.pairwise_map]
    rfl
  rw [key, hmap, ← key]
  exact h

theorem exists_of_map_identity {cs cs' : List TextCluster}
    (h : cs'.map TextCluster.identity = cs.map TextCluster.identity) {c' : TextCluster}
    (hc' : c' ∈ cs') : ∃ c ∈ cs, c.identity = c'.identity := by
  have : c'.identity ∈ cs.map TextCluster.identity := h ▸ List.mem_map_of_mem hc'
  simpa using this

/-! ## Growing lists -/

/-- A later list of stored clusters: no cluster is lost or changes more than its day, and the
clusters that came in between have greater ids than all that were there. -/
structure Grows (cs cs' : List TextCluster) : Prop where
  kept : ∀ c ∈ cs, ∃ d ∈ cs', d.identity = c.identity
  added : ∀ d ∈ cs', (∃ c ∈ cs, c.identity = d.identity) ∨ idRank (greatestId cs) ≤ d.id

theorem Grows.refl (cs : List TextCluster) : Grows cs cs :=
  ⟨fun c hc => ⟨c, hc, rfl⟩, fun c hc => .inl ⟨c, hc, rfl⟩⟩

theorem Grows.greatestId_le {cs cs' : List TextCluster} (h : Grows cs cs') :
    idRank (greatestId cs) ≤ idRank (greatestId cs') :=
  greatestId_le_of_ids fun c hc =>
    let ⟨d, hd, hid⟩ := h.kept c hc
    ⟨d, hd, TextCluster.id_eq_of_identity hid⟩

theorem Grows.of_map_identity {cs cs' : List TextCluster}
    (h : cs'.map TextCluster.identity = cs.map TextCluster.identity) : Grows cs cs' where
  kept _ hc := exists_of_map_identity h.symm hc
  added _ hd := .inl (exists_of_map_identity h hd)

theorem Grows.touchFirst {id : Nat} {day : Day} {cs cs' : List TextCluster}
    (h : touchFirst id day cs = some cs') : Grows cs cs' :=
  .of_map_identity (map_identity_touchFirst h)

theorem Grows.concat (cs : List TextCluster) (component text : String) (day : Day) :
    Grows cs (cs ++ [newCluster (greatestId cs) component text day]) where
  kept c hc := ⟨c, List.mem_append_left _ hc, rfl⟩
  added d hd := by
    rcases List.mem_append.1 hd with hd | hd
    · exact .inl ⟨d, hd, rfl⟩
    · obtain rfl := List.mem_singleton.1 hd
      exact .inr (Nat.le_refl _)

end LogAnomaly
