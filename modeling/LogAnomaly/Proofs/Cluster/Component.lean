import LogAnomaly.Cluster.Shared
import LogAnomaly.Proofs.Cluster.Fingerprint
import LogAnomaly.Proofs.Store.Stored

/-!
# Steps of a component model

* `ClusterRules.near`: whether a text joins the cluster of another one;
* `ComponentModel.matchAfter?`: a search and what a match does, in one; `match_cases`: a search and
  a match after it come to just this, so the place that a search has found is never out of range;
* `ComponentModel.matchAfter?_eq_some`, `matchAfter?_eq_none_iff`: all that a search does;
* `CountedModel.place_eq`, `CountedModel.placeShared_eq`: so a search never fails, be there a store or
  not;
* `ComponentModel.Follows`: a model in step with its store: it holds only clusters of its component
  that are stored, knows their ids, and misses none up to the id it has caught up with. The steps
  of a model keep it (`Follows.matched`, `Follows.catchUpTo`, `Follows.putInFront`), and so does
  everything that happens to the store meanwhile (`Follows.mono`).
-/

namespace LogAnomaly

/-- The first element with a property, and the others in their order. -/
def extractFirst {α : Type} (p : α → Bool) : List α → Option (α × List α)
  | [] => none
  | a :: rest =>
    if p a then some (a, rest)
    else (extractFirst p rest).map fun (found, others) => (found, a :: others)

theorem extractFirst_eq_findIdx? {α : Type} (p : α → Bool) (l : List α) :
    extractFirst p l =
      (l.findIdx? p).bind fun i => l[i]?.map fun found => (found, l.eraseIdx i) := by
  induction l with
  | nil => rfl
  | cons a l ih =>
    rw [extractFirst, List.findIdx?_cons]
    split
    · rfl
    · rw [ih, Option.map_bind, Option.bind_map]
      refine congrArg (Option.bind _) (funext fun i => ?_)
      rw [Function.comp_apply, Function.comp_apply, List.getElem?_cons_succ, Option.map_map]
      rfl

theorem extractFirst_eq_some {α : Type} {p : α → Bool} {l rest : List α} {a : α}
    (h : extractFirst p l = some (a, rest)) :
    ∃ before after, l = before ++ a :: after ∧ rest = before ++ after ∧ p a = true ∧
      ∀ b ∈ before, p b = false := by
  induction l generalizing rest with
  | nil => simp [extractFirst] at h
  | cons b l ih =>
    rw [extractFirst] at h
    split at h
    · rename_i hb
      cases h
      exact ⟨[], l, rfl, rfl, hb, by simp⟩
    · rename_i hb
      obtain ⟨⟨c, others⟩, hl, heq⟩ := Option.map_eq_some_iff.1 h
      cases heq
      obtain ⟨before, after, rfl, rfl, ha, hbefore⟩ := ih hl
      refine ⟨b :: before, after, rfl, rfl, ha, fun d hd => ?_⟩
      rcases List.mem_cons.1 hd with rfl | hd
      · simpa using hb
      · exact hbefore d hd

theorem extractFirst_eq_none_iff {α : Type} {p : α → Bool} {l : List α} :
    extractFirst p l = none ↔ ∀ a ∈ l, p a = false := by
  induction l with
  | nil => simp [extractFirst]
  | cons b l ih =>
    rw [extractFirst]
    split
    · rename_i hb
      simp [hb]
    · rename_i hb
      simp only [Bool.not_eq_true] at hb
      simp [hb, ih]

/-- An element after the first ones is taken out of the others. -/
theorem eraseIdx_after_take {α : Type} {l : List α} {start : Nat} (h : start ≤ l.length) (i : Nat) :
    l.eraseIdx (start + i) = l.take start ++ (l.drop start).eraseIdx i := by
  have hlen : (l.take start).length = start := List.length_take_of_le h
  have happend := List.eraseIdx_append_of_length_le
    (show (l.take start).length ≤ start + i by omega) (l.drop start)
  rwa [List.take_append_drop, hlen, Nat.add_sub_cancel_left] at happend

/-! ## Rules -/

namespace ClusterRules

/-- Whether the cluster of a normalized text takes another normalized text. -/
def near (rules : ClusterRules) (known text : String) : Bool :=
  rules.accepts (rules.fingerprint known) (rules.fingerprint text)

theorem near_self (rules : ClusterRules) (text : String) : rules.near text text = true :=
  Fingerprint.isNear_self ..

theorem near_comm {rules : ClusterRules} (h : rules.tolerance.Symmetric) (s t : String) :
    rules.near s t = rules.near t s := Fingerprint.isNear_comm h ..

end ClusterRules

@[simp] theorem Entry.observedOn_cluster (day : Day) (e : Entry) :
    (e.observedOn day).cluster = e.cluster.observedOn day := rfl

@[simp] theorem Entry.observedOn_fingerprint (day : Day) (e : Entry) :
    (e.observedOn day).fingerprint = e.fingerprint := rfl

namespace ComponentModel

/-! ## Searching -/

/-- Finds the first close cluster from the given place on, records the day and moves it to the
front. -/
def matchAfter? (start : Nat) (o : Observation) (m : ComponentModel) :
    Option (Placement × ComponentModel) :=
  (extractFirst (fun entry => m.rules.accepts entry.fingerprint o.fingerprint)
    (m.entries.drop start)).map fun (entry, others) =>
      (⟨⟨entry.cluster.id, .matched⟩, entry.cluster.lastObserved < o.day⟩,
       { m with entries := entry.observedOn o.day :: (m.entries.take start ++ others) })

/-- A search finds no close cluster, or it finds one that is then moved to the front. -/
theorem match_cases (start : Nat) (o : Observation) (m : ComponentModel) :
    (m.closeFrom? start o = none ∧ m.matchAfter? start o = none) ∨
    ∃ place p m', m.closeFrom? start o = some place ∧ m.recordMatch place o = .ok (p, m') ∧
      m.matchAfter? start o = some (p, m') := by
  rw [closeFrom?, matchAfter?, extractFirst_eq_findIdx?]
  cases hindex : (m.entries.drop start).findIdx? fun entry =>
      m.rules.accepts entry.fingerprint o.fingerprint with
  | none => exact .inl ⟨rfl, rfl⟩
  | some i =>
    have hi : i < (m.entries.drop start).length :=
      (List.findIdx?_eq_some_iff_findIdx_eq.1 hindex).1
    have hentry : m.entries[start + i]? = some (m.entries.drop start)[i] := by
      rw [← List.getElem?_drop, List.getElem?_eq_getElem hi]
    have hstart : start ≤ m.entries.length := by
      rw [List.length_drop] at hi
      omega
    refine .inr ⟨start + i, _, _, rfl, by rw [recordMatch, hentry, eraseIdx_after_take hstart], ?_⟩
    rw [Option.bind_some, List.getElem?_eq_getElem hi]
    rfl

theorem matchAfter?_eq_none_iff {m : ComponentModel} {start : Nat} {o : Observation} :
    m.matchAfter? start o = none ↔
      ∀ e ∈ m.entries.drop start, m.rules.accepts e.fingerprint o.fingerprint = false := by
  rw [matchAfter?, Option.map_eq_none_iff, extractFirst_eq_none_iff]

/-- A search takes the first close cluster from its start on, records the day and puts the cluster
in front of the others. -/
theorem matchAfter?_eq_some {m m' : ComponentModel} {start : Nat} {o : Observation}
    {p : Placement} (h : m.matchAfter? start o = some (p, m')) :
    ∃ before e after, m.entries = before ++ e :: after ∧
      m.rules.accepts e.fingerprint o.fingerprint = true ∧
      (∀ d ∈ before.drop start, m.rules.accepts d.fingerprint o.fingerprint = false) ∧
      p = ⟨⟨e.cluster.id, .matched⟩, e.cluster.lastObserved < o.day⟩ ∧
      m' = { m with entries := e.observedOn o.day :: (before ++ after) } := by
  obtain ⟨⟨e, others⟩, hfirst, heq⟩ := Option.map_eq_some_iff.1 h
  obtain ⟨before, after, hdrop, rfl, hacc, hbefore⟩ := extractFirst_eq_some hfirst
  cases heq
  have hlen : (m.entries.take start).length = start := by
    have : (m.entries.drop start).length ≠ 0 := by simp [hdrop]
    rw [List.length_drop] at this
    rw [List.length_take]
    omega
  refine ⟨m.entries.take start ++ before, e, after, ?_, hacc, fun d hd => ?_, rfl, ?_⟩
  · rw [List.append_assoc, ← hdrop, List.take_append_drop]
  · rw [List.drop_left' hlen] at hd
    exact hbefore d hd
  · rw [List.append_assoc]

/-- A search changes nothing but the order and the days. -/
theorem matchAfter?_kept {m m' : ComponentModel} {start : Nat} {o : Observation}
    {p : Placement} (h : m.matchAfter? start o = some (p, m')) :
    m'.component = m.component ∧ m'.rules = m.rules ∧ m'.ids = m.ids ∧
      m'.knownUpTo = m.knownUpTo := by
  obtain ⟨before, e, after, -, -, -, -, rfl⟩ := matchAfter?_eq_some h
  exact ⟨rfl, rfl, rfl, rfl⟩

/-! ## Following a store -/

/-- A model in step with the clusters of its store. -/
structure Follows (stored : List TextCluster) (m : ComponentModel) : Prop where
  nodup : (m.clusters.map (·.id)).Nodup
  mem_ids : ∀ id, id ∈ m.ids ↔ ∃ c ∈ m.clusters, c.id = id
  fingerprint_eq : ∀ e ∈ m.entries, e.fingerprint = m.rules.fingerprint e.cluster.representative
  component_eq : ∀ c ∈ m.clusters, c.component = m.component
  backed : ∀ c ∈ m.clusters, ∃ x ∈ stored, x.identity = c.identity
  knownUpTo_le : idRank m.knownUpTo ≤ idRank (greatestId stored)
  /-- The model knows all up to the id that it has caught up with. -/
  known : ∀ x ∈ stored, x.component = m.component → x.id < idRank m.knownUpTo → x.id ∈ m.ids

theorem mem_clusters {m : ComponentModel} {e : Entry} (h : e ∈ m.entries) :
    e.cluster ∈ m.clusters := List.mem_map_of_mem h

theorem Follows.new (stored : List TextCluster) (component : String) (rules : ClusterRules) :
    Follows stored { component, rules } where
  nodup := by simp [clusters]
  mem_ids := by simp [clusters]
  fingerprint_eq := by simp
  component_eq := by simp [clusters]
  backed := by simp [clusters]
  knownUpTo_le := Nat.zero_le _
  known := by simp

variable {stored : List TextCluster} {m : ComponentModel}

/-- The ids of a model lie below the one that the store gives next. -/
theorem Follows.id_lt (h : m.Follows stored) {id : Nat} (hid : id ∈ m.ids) :
    id < idRank (greatestId stored) := by
  obtain ⟨c, hc, rfl⟩ := (h.mem_ids id).1 hid
  obtain ⟨x, hx, hxc⟩ := h.backed c hc
  exact TextCluster.id_eq_of_identity hxc ▸ id_lt_greatestId hx

theorem Follows.mono (h : m.Follows stored) {stored' : List TextCluster}
    (hg : Grows stored stored') : m.Follows stored' where
  nodup := h.nodup
  mem_ids := h.mem_ids
  fingerprint_eq := h.fingerprint_eq
  component_eq := h.component_eq
  backed c hc :=
    let ⟨x, hx, hxc⟩ := h.backed c hc
    let ⟨y, hy, hyx⟩ := hg.kept x hx
    ⟨y, hy, hyx.trans hxc⟩
  knownUpTo_le := Nat.le_trans h.knownUpTo_le hg.greatestId_le
  known y hy hc hlt := by
    rcases hg.added y hy with ⟨x, hx, hxy⟩ | hnew
    · obtain ⟨hid, hcomp, -⟩ := TextCluster.identity_eq_iff.1 hxy
      rw [← hid] at hlt ⊢
      exact h.known x hx (hcomp.trans hc) hlt
    · -- a cluster that came later has an id beyond all that the model has caught up with
      have := h.knownUpTo_le
      omega

/-- What a model knows about its store does not depend on days and order. -/
theorem Follows.of_perm (h : m.Follows stored) {m' : ComponentModel}
    (hentries : (m'.entries.map fun e => (e.cluster.identity, e.fingerprint)).Perm
      (m.entries.map fun e => (e.cluster.identity, e.fingerprint)))
    (hc : m'.component = m.component) (hr : m'.rules = m.rules) (hi : m'.ids = m.ids)
    (hk : m'.knownUpTo = m.knownUpTo) : m'.Follows stored := by
  have hids : (m'.clusters.map (·.id)).Perm (m.clusters.map (·.id)) := by
    have := hentries.map fun q => q.1.1
    simpa [clusters, Function.comp_def, TextCluster.identity] using this
  have back : ∀ e' ∈ m'.entries, ∃ e ∈ m.entries,
      e.cluster.identity = e'.cluster.identity ∧ e.fingerprint = e'.fingerprint := fun e' he' => by
    have := hentries.mem_iff.1 (List.mem_map_of_mem he')
    simpa [Prod.ext_iff] using this
  have backCluster : ∀ c' ∈ m'.clusters, ∃ c ∈ m.clusters, c.identity = c'.identity := by
    simp only [clusters, List.mem_map, forall_exists_index, and_imp, forall_apply_eq_imp_iff₂]
    intro e' he'
    obtain ⟨e, he, hid, -⟩ := back e' he'
    exact ⟨e.cluster, ⟨e, he, rfl⟩, hid⟩
  exact {
    nodup := hids.nodup_iff.2 h.nodup
    mem_ids := fun id => by
      rw [hi, h.mem_ids]
      have := hids.mem_iff (a := id)
      simpa using this.symm
    fingerprint_eq := fun e' he' => by
      obtain ⟨e, he, hid, hfp⟩ := back e' he'
      rw [← hfp, h.fingerprint_eq e he, (TextCluster.identity_eq_iff.1 hid).2.2, hr]
    component_eq := fun c' hc' => by
      obtain ⟨c, hmem, hid⟩ := backCluster c' hc'
      rw [hc, ← (TextCluster.identity_eq_iff.1 hid).2.1, h.component_eq c hmem]
    backed := fun c' hc' => by
      obtain ⟨c, hmem, hid⟩ := backCluster c' hc'
      obtain ⟨x, hx, hxc⟩ := h.backed c hmem
      exact ⟨x, hx, hxc.trans hid⟩
    knownUpTo_le := hk ▸ h.knownUpTo_le
    known := fun x hx hcomp hlt => by
      rw [hi]
      exact h.known x hx (hcomp.trans hc) (hk ▸ hlt) }

theorem Follows.matched (h : m.Follows stored) {m' : ComponentModel} {start : Nat}
    {o : Observation} {p : Placement} (hm : m.matchAfter? start o = some (p, m')) :
    m'.Follows stored := by
  obtain ⟨before, e, after, hentries, -, -, -, rfl⟩ := matchAfter?_eq_some hm
  refine h.of_perm ?_ rfl rfl rfl rfl
  rw [hentries]
  simp only [List.map_cons, List.map_append, Entry.observedOn_cluster,
    Entry.observedOn_fingerprint, TextCluster.observedOn_identity]
  exact List.perm_middle.symm

/-- A model may note that it knows the store up to an id if it misses no cluster up to it. -/
theorem Follows.catchUpTo (h : m.Follows stored) {greatest : Option Nat}
    (hle : idRank greatest ≤ idRank (greatestId stored))
    (hall : ∀ x ∈ stored, x.component = m.component → x.id < idRank greatest → x.id ∈ m.ids) :
    (m.catchUpTo greatest).Follows stored where
  nodup := h.nodup
  mem_ids := h.mem_ids
  fingerprint_eq := h.fingerprint_eq
  component_eq := h.component_eq
  backed := h.backed
  knownUpTo_le := by
    show idRank (laterId m.knownUpTo greatest) ≤ _
    rw [idRank_laterId]
    have := h.knownUpTo_le
    omega
  known x hx hc hlt := by
    replace hlt : x.id < idRank (laterId m.knownUpTo greatest) := hlt
    rw [idRank_laterId] at hlt
    rcases Nat.lt_or_ge x.id (idRank m.knownUpTo) with hold | hnew
    · exact h.known x hx hc hold
    · exact hall x hx hc (by omega)

/-- A cluster that is put in front is the one that the store has made. -/
theorem Follows.putInFront (h : m.Follows stored) {o : Observation}
    (ho : o.fingerprint = m.rules.fingerprint o.text) :
    (m.putInFront (idRank (greatestId stored)) o).Follows
      (stored ++ [newCluster (greatestId stored) m.component o.text o.day]) := by
  have hnew : idRank (greatestId stored) ∉ m.ids := fun hmem => Nat.lt_irrefl _ (h.id_lt hmem)
  have hg := h.mono (Grows.concat stored m.component o.text o.day)
  exact {
    nodup := List.nodup_cons.2 ⟨fun hmem => by
      obtain ⟨c, hc, hid⟩ := List.mem_map.1 hmem
      exact hnew ((h.mem_ids _).2 ⟨c, hc, hid⟩), h.nodup⟩
    mem_ids := fun id => by
      show id ∈ idRank (greatestId stored) :: m.ids ↔ ∃ c ∈ _ :: m.clusters, c.id = id
      simp [h.mem_ids, eq_comm]
    fingerprint_eq := fun e he => by
      rcases List.mem_cons.1 he with rfl | he
      · exact ho
      · exact h.fingerprint_eq e he
    component_eq := fun c hc => by
      rcases List.mem_cons.1 hc with rfl | hc
      · rfl
      · exact h.component_eq c hc
    backed := fun c hc => by
      rcases List.mem_cons.1 hc with rfl | hc
      · exact ⟨newCluster (greatestId stored) m.component o.text o.day, by simp, rfl⟩
      · exact hg.backed c hc
    knownUpTo_le := hg.knownUpTo_le
    known := fun x hx hc hlt => List.mem_cons_of_mem _ (hg.known x hx hc hlt) }

end ComponentModel

/-! ## Searches and matches of a call -/

namespace CountedModel

theorem recordMatch_eq {place : Nat} {o : Observation} {w : CountedModel} {p : Placement}
    {m : ComponentModel} (h : w.model.recordMatch place o = .ok (p, m)) :
    w.recordMatch place o = (.ok p, { w with model := m }) := by
  rw [recordMatch, h]

/-- Without a store the cluster of a text is the first close one, or a new one. -/
theorem place_eq (o : Observation) (w : CountedModel) :
    w.place o =
      match w.model.matchAfter? 0 o with
      | some (p, model) => (.ok p, { w with model })
      | none => (.ok (w.create o).1, (w.create o).2) := by
  rw [place]
  rcases ComponentModel.match_cases 0 o w.model with
    ⟨hclose, hm⟩ | ⟨place, p, m, hclose, hrecord, hm⟩
  · simp only [hclose, hm]
  · simp only [hclose, hm, recordMatch_eq hrecord]

theorem exists_place (o : Observation) (w : CountedModel) : ∃ p w', w.place o = (.ok p, w') := by
  rw [place_eq]
  cases w.model.matchAfter? 0 o with
  | some found => exact ⟨_, _, rfl⟩
  | none => exact ⟨_, _, rfl⟩

theorem add_eq_of_place {text : String} {time : Instant} {w w' : CountedModel} {p : Placement}
    (h : w.place (w.model.rules.observe text time) = (.ok p, w')) :
    w.add text time = (p.assignment, w') := by
  rw [add]
  split
  · rename_i heq
    cases h.symm.trans heq
    rfl
  · rename_i heq
    cases h.symm.trans heq

theorem add_eq (text : String) (time : Instant) (w : CountedModel) :
    let o := w.model.rules.observe text time
    w.add text time =
      match w.model.matchAfter? 0 o with
      | some (p, model) => (p.assignment, { w with model })
      | none => ((w.create o).1.assignment, (w.create o).2) := by
  intro o
  have hplace := w.place_eq o
  cases hm : w.model.matchAfter? 0 o with
  | some found => exact add_eq_of_place (by rw [hplace, hm])
  | none => exact add_eq_of_place (by rw [hplace, hm])

section Shared

open ClusterStore

variable {σ : Type} [ClusterStore σ]

/-- With a store the cluster of a text is the first close one that is known, or what the transaction
gives. -/
theorem placeShared_eq (o : Observation) (w : CountedModel) (s : σ) :
    w.placeShared o s =
      match w.model.matchAfter? 0 o with
      | some (p, model) => (.ok p, { w with model }, s)
      | none => w.transact o s := by
  rw [placeShared]
  rcases ComponentModel.match_cases 0 o w.model with
    ⟨hclose, hm⟩ | ⟨place, p, m, hclose, hrecord, hm⟩
  · simp only [hclose, hm]
  · simp only [hclose, hm, recordMatch_eq hrecord]

/-- After it has caught up with the store, a model takes the first close cluster among the new
ones, or inserts a cluster. -/
theorem catchUp_eq_match (o : Observation) (storeMax : Option Nat) (w : CountedModel) (txn : Txn σ)
    (s : σ) :
    w.catchUp o storeMax txn s =
      match txnLoad w.model.component w.model.knownUpTo txn s with
      | .error e => (.error (w.failure .catchUp e), w, rollback txn s)
      | .ok fresh =>
        let synced : CountedModel :=
          { w.merge fresh with model := (w.merge fresh).model.catchUpTo storeMax }
        match synced.model.matchAfter? w.model.entries.length o with
        | none => synced.insert o txn s
        | some (p, model) =>
          match commit txn s with
          | (.error e, s) => (.error (synced.failure .commit e), synced, s)
          | (.ok (), s) => (.ok p, { synced with model }, s) := by
  rw [catchUp]
  cases txnLoad w.model.component w.model.knownUpTo txn s with
  | error e => rfl
  | ok fresh =>
    let synced : CountedModel :=
      { w.merge fresh with model := (w.merge fresh).model.catchUpTo storeMax }
    rcases ComponentModel.match_cases w.model.entries.length o synced.model with
      ⟨hclose, hm⟩ | ⟨place, p, m, hclose, hrecord, hm⟩
    · simp only [synced] at hclose hm
      simp only [hclose, hm]
    · have hmatch := recordMatch_eq (w := synced) hrecord
      simp only [synced] at hclose hm hmatch
      rcases commit txn s with ⟨_ | _, _⟩ <;> simp only [hclose, hm, hmatch]

end Shared

end CountedModel

end LogAnomaly
