import LogAnomaly.Cluster.Shared
import LogAnomaly.Proofs.Cluster.CatchUp
import LogAnomaly.Proofs.Cluster.Overlap
import LogAnomaly.Proofs.Cluster.Recency
import LogAnomaly.Proofs.Text.Blank
import LogAnomaly.Proofs.Time.Parts
import Mathlib.Data.Rat.Floor

/-!
# What texts join

A model with any store, or with none, whatever the store holds and answers:

* `CountedModel.Placed`: what a call comes to: it fails, or the text joins a cluster, or it gets one
  of its own (`CountedModel.placeShared_placed`);
* `CountedModel.Reachable`: what a model comes to by any calls;
* `CountedModel.Faithful`: a model that knows the fingerprints of the representatives of its
  clusters. Each call keeps it so, and so every model that is reached is one
  (`CountedModel.Reachable.faithful`);
* `CountedModel.joins_only_overlapping`: with a linear tolerance no text joins a cluster that it has
  nothing in common with.
-/

namespace LogAnomaly

open ClusterStore

/-! ## Tokens of a text -/

theorem length_tokens_le (mode : Tokenization) (text : String) :
    (mode.tokens text).length ≤ max 1 text.toList.length := by
  cases mode with
  | words =>
    have := Text.length_splitBlank_le text.toList
    simp only [Tokenization.tokens, Text.words, List.length_map]
    omega
  | whole =>
    simp only [Tokenization.tokens]
    split
    · exact Nat.zero_le _
    · exact Nat.le_max_left _ _

theorem ClusterRules.length_tokens_observe_le (rules : ClusterRules) (text : String)
    (time : Instant) :
    (rules.observe text time).fingerprint.tokens.length ≤ max 1 rules.maxTextLength := by
  have htokens := length_tokens_le rules.preprocessor.tokenization (rules.normalized text)
  have hcut : (rules.normalized text).toList.length ≤ rules.maxTextLength := by
    rw [ClusterRules.normalized, String.toList_ofList]
    exact List.length_take_le _ _
  exact htokens.trans (max_le_max_left _ hcut)

namespace CountedModel

/-! ## What a call comes to -/

/-- A model as it was, or after it has taken in clusters of a store. -/
def GrowsTo (w w' : CountedModel) : Prop :=
  w' = w ∨ ∃ fresh greatest,
    w' = { w.merge fresh with model := (w.merge fresh).model.catchUpTo greatest }

/-- The placement of a text and the model after it. -/
inductive Placed (o : Observation) (w : CountedModel) :
    Except AssignmentError Placement → CountedModel → Prop where
  | failed {e : AssignmentError} {w' : CountedModel} : w.GrowsTo w' → Placed o w (.error e) w'
  | joined {start : Nat} {p : Placement} {m : ComponentModel} {w' : CountedModel} :
      w.GrowsTo w' → w'.model.matchAfter? start o = some (p, m) →
        Placed o w (.ok p) { w' with model := m }
  | made {id : Nat} {w' : CountedModel} :
      w.GrowsTo w' → Placed o w (.ok ⟨⟨id, .created⟩, false⟩) (w'.adopt id o)

section Placed

variable {σ : Type} [ClusterStore σ] {o : Observation} {w w' : CountedModel}

theorem insert_placed (h : w.GrowsTo w') (txn : Txn σ) (s : σ) :
    Placed o w (w'.insert o txn s).1 (w'.insert o txn s).2.1 := by
  unfold CountedModel.insert
  split
  · exact .failed h
  · split
    · exact .failed h
    · split
      · exact .failed h
      · exact .made h

theorem catchUp_placed (storeMax : Option Nat) (txn : Txn σ) (s : σ) :
    Placed o w (w.catchUp o storeMax txn s).1 (w.catchUp o storeMax txn s).2.1 := by
  rw [catchUp_eq_match]
  split
  · exact .failed (.inl rfl)
  · rename_i fresh hload
    let synced : CountedModel :=
      { w.merge fresh with model := (w.merge fresh).model.catchUpTo storeMax }
    have hsynced : w.GrowsTo synced := .inr ⟨fresh, storeMax, rfl⟩
    dsimp only
    split
    · exact insert_placed hsynced txn s
    · rename_i p m hm
      split
      · exact .failed hsynced
      · show Placed o w (.ok p) { synced with model := m }
        exact .joined hsynced hm

/-- A call fails, or the text joins a cluster, or it gets one of its own. -/
theorem placeShared_placed (o : Observation) (w : CountedModel) (s : σ) :
    Placed o w (w.placeShared o s).1 (w.placeShared o s).2.1 := by
  rw [placeShared_eq]
  split
  · rename_i p m hm
    exact .joined (.inl rfl) hm
  · unfold transact
    split
    · exact .failed (.inl rfl)
    · split
      · exact .failed (.inl rfl)
      · split
        · exact catchUp_placed _ _ _
        · exact insert_placed (.inl rfl) _ _

end Placed

end CountedModel

/-- The recording of a day does not change an answer. -/
theorem recordDay_eq_ok {σ : Type} [ClusterStore σ] {component : String} {day : Day}
    {p : Placement} {s : σ} {answer : Assignment}
    (h : (recordDay component day p s).1 = .ok answer) : answer = p.assignment := by
  unfold recordDay at h
  split at h
  · split at h
    · cases h
    · exact (Except.ok.inj h).symm
  · exact (Except.ok.inj h).symm

namespace CountedModel

/-- An answer is the placement of the text. -/
theorem addShared_placed {σ : Type} [ClusterStore σ] (text : String) (time : Instant)
    (w : CountedModel) (s : σ) :
    ∃ result, Placed (w.model.rules.observe text time) w result (w.addShared text time s).2.1 ∧
      ∀ answer, (w.addShared text time s).1 = .ok answer →
        ∃ p, result = .ok p ∧ answer = p.assignment := by
  have hplaced := placeShared_placed (w.model.rules.observe text time) w s
  unfold addShared
  extract_lets o
  split
  · rename_i e w' s' heq
    rw [heq] at hplaced
    exact ⟨_, hplaced, fun answer hanswer => nomatch hanswer⟩
  · rename_i p w' s' heq
    rw [heq] at hplaced
    exact ⟨_, hplaced, fun answer hanswer => ⟨p, rfl, recordDay_eq_ok hanswer⟩⟩

/-! ## Models that know the fingerprints of their clusters -/

/-- What a model comes to that is empty at first. Texts come to it with and without a store, which
may hold and answer anything; clusters of a store are merged; others use the counter. -/
inductive Reachable (rules : ClusterRules) : CountedModel → Prop where
  | new (component : String) (counter : IdCounter) :
      Reachable rules ⟨{ component, rules }, counter⟩
  | add {w : CountedModel} (text : String) (time : Instant) :
      Reachable rules w → Reachable rules (w.add text time).2
  | addShared {w : CountedModel} {σ : Type} [ClusterStore σ] (text : String) (time : Instant)
      (s : σ) : Reachable rules w → Reachable rules (w.addShared text time s).2.1
  | merge {w : CountedModel} (clusters : List TextCluster) :
      Reachable rules w → Reachable rules (w.merge clusters)
  | catchUpTo {w : CountedModel} (greatest : Option Nat) :
      Reachable rules w → Reachable rules { w with model := w.model.catchUpTo greatest }
  | count {w : CountedModel} (counter : IdCounter) :
      Reachable rules w → Reachable rules { w with counter }

/-- A model with given rules that knows the fingerprints of the representatives. -/
structure Faithful (rules : ClusterRules) (w : CountedModel) : Prop where
  rules_eq : w.model.rules = rules
  fingerprint_eq : ∀ e ∈ w.model.entries, e.fingerprint = rules.fingerprint e.cluster.representative

namespace Faithful

variable {rules : ClusterRules} {w w' : CountedModel} {o : Observation}

theorem absorb (h : w.Faithful rules) (c : TextCluster) : (w.absorb c).Faithful rules := by
  refine ⟨(absorb_rules w c).trans h.rules_eq, fun e he => ?_⟩
  by_cases hid : c.id ∈ w.model.ids
  · rw [absorb_known hid] at he
    exact h.fingerprint_eq e he
  · rw [absorb_unknown hid] at he
    rcases List.mem_append.1 he with he | he
    · exact h.fingerprint_eq e he
    · rw [List.mem_singleton.1 he, h.rules_eq]

theorem merge (h : w.Faithful rules) (clusters : List TextCluster) :
    (w.merge clusters).Faithful rules := by
  induction clusters generalizing w with
  | nil => exact h
  | cons c clusters ih => exact ih (h.absorb c)

theorem growsTo (h : w.Faithful rules) (hgrows : w.GrowsTo w') : w'.Faithful rules := by
  rcases hgrows with rfl | ⟨fresh, greatest, rfl⟩
  · exact h
  · exact ⟨(h.merge fresh).rules_eq, (h.merge fresh).fingerprint_eq⟩

theorem matched (h : w.Faithful rules) {start : Nat} {p : Placement} {m : ComponentModel}
    (hm : w.model.matchAfter? start o = some (p, m)) (counter : IdCounter) :
    Faithful rules ⟨m, counter⟩ := by
  obtain ⟨before, e, after, hentries, -, -, -, rfl⟩ := ComponentModel.matchAfter?_eq_some hm
  refine ⟨h.rules_eq, fun d hd => ?_⟩
  rcases List.mem_cons.1 hd with rfl | hd
  · exact h.fingerprint_eq e (by simp [hentries])
  · refine h.fingerprint_eq d ?_
    rw [hentries]
    exact (List.mem_append.1 hd).elim (List.mem_append_left _)
      fun hd => List.mem_append_right _ (List.mem_cons_of_mem _ hd)

theorem putInFront (h : w.Faithful rules) (ho : o.fingerprint = rules.fingerprint o.text)
    (id : Nat) (knownUpTo : Option Nat) (counter : IdCounter) :
    Faithful rules ⟨{ w.model with knownUpTo }.putInFront id o, counter⟩ := by
  refine ⟨h.rules_eq, fun e he => ?_⟩
  rcases List.mem_cons.1 he with rfl | he
  · exact ho
  · exact h.fingerprint_eq e he

theorem placed (h : w.Faithful rules) (ho : o.fingerprint = rules.fingerprint o.text)
    {result : Except AssignmentError Placement} (hplaced : Placed o w result w') :
    w'.Faithful rules := by
  cases hplaced with
  | failed hgrows => exact h.growsTo hgrows
  | joined hgrows hm => exact (h.growsTo hgrows).matched hm _
  | made hgrows => exact (h.growsTo hgrows).putInFront ho _ _ _

/-- A text joins a cluster whose representative takes it. It is then in front of all others. -/
theorem joined (h : w.Faithful rules) {start : Nat} {p : Placement} {m : ComponentModel}
    (hm : w.model.matchAfter? start o = some (p, m)) :
    ∃ c, m.cluster? p.assignment.clusterId = some c ∧
      rules.accepts (rules.fingerprint c.representative) o.fingerprint = true := by
  obtain ⟨before, e, after, hentries, hacc, -, rfl, rfl⟩ := ComponentModel.matchAfter?_eq_some hm
  refine ⟨e.cluster.observedOn o.day, ?_, ?_⟩
  · simp [ComponentModel.cluster?, ComponentModel.clusters]
  · rw [h.rules_eq, h.fingerprint_eq e (by simp [hentries])] at hacc
    exact hacc

end Faithful

theorem Reachable.faithful {rules : ClusterRules} {w : CountedModel} (h : w.Reachable rules) :
    w.Faithful rules := by
  induction h with
  | new => exact ⟨rfl, by simp⟩
  | @add w text time _ ih =>
    rcases visit_cases ⟨text, time, 0⟩ w with ⟨p, m, hm, heq⟩ | ⟨-, heq⟩
    · exact (congrArg Prod.snd heq) ▸ ih.matched hm w.counter
    · exact (congrArg Prod.snd heq) ▸ ih.putInFront (by rw [ih.rules_eq]; rfl) _ _ _
  | @addShared w σ _ text time s _ ih =>
    obtain ⟨result, hplaced, -⟩ := addShared_placed text time w s
    exact ih.placed (by rw [ih.rules_eq]; rfl) hplaced
  | merge clusters _ ih => exact ih.merge clusters
  | catchUpTo greatest _ ih => exact ⟨ih.rules_eq, ih.fingerprint_eq⟩
  | count counter _ ih => exact ⟨ih.rules_eq, ih.fingerprint_eq⟩

/-! ## What a text has in common with the cluster that it joins -/

/-- If the answer to a text is a match, then its cluster has a token in common with the text as it is
compared, or neither has any tokens. -/
def MatchOverlaps (rules : ClusterRules) (text : String) (answer : Assignment)
    (w : CountedModel) : Prop :=
  answer.outcome = .matched → ∃ c, w.model.cluster? answer.clusterId = some c ∧
    Overlap (rules.preprocessor.tokenization.tokens c.representative)
      (rules.preprocessor.tokenization.tokens (rules.normalized text))

section Linear

variable {α : Type} [Field α] [LinearOrder α] [IsStrictOrderedRing α] [FloorRing α]
  {rules : ClusterRules} {t : LinearTolerance α} {w : CountedModel}

theorem Faithful.matchOverlaps (h : w.Faithful rules) (htolerance : rules.tolerance = t.toTolerance)
    (hdelta : 1 ≤ t.delta) (hfactor : 1 ≤ t.factor) (hlength : rules.maxTextLength ≤ maxWord)
    {text : String} {time : Instant} {start : Nat} {p : Placement} {m : ComponentModel}
    (hm : w.model.matchAfter? start (rules.observe text time) = some (p, m))
    (counter : IdCounter) : MatchOverlaps rules text p.assignment ⟨m, counter⟩ := by
  intro _
  obtain ⟨c, hc, hacc⟩ := h.joined hm
  have hbelow : ∀ m n, rules.tolerance m n ≤ min m n - 1 := fun m n => by
    rw [htolerance]
    exact LinearTolerance.toTolerance_le hdelta hfactor m n
  have hcount := (rules.length_tokens_observe_le text time).trans
    (max_le (by decide : 1 ≤ maxWord) hlength)
  exact ⟨c, hc, Fingerprint.overlap_of_isNear hbelow hcount hacc⟩

/-- With a linear tolerance, in exact numbers, no text joins a cluster that it has nothing in common
with: not in a model without a store, and not in one with a store, whatever that holds and answers.
At least one token of the shorter text must not count, and no token more than once. -/
theorem joins_only_overlapping (hw : w.Reachable rules)
    (htolerance : rules.tolerance = t.toTolerance) (hdelta : 1 ≤ t.delta)
    (hfactor : 1 ≤ t.factor) (hlength : rules.maxTextLength ≤ maxWord) (text : String)
    (time : Instant) :
    MatchOverlaps rules text (w.add text time).1 (w.add text time).2 ∧
      ∀ (σ : Type) [ClusterStore σ] (s : σ) (answer : Assignment),
        (w.addShared text time s).1 = .ok answer →
          MatchOverlaps rules text answer (w.addShared text time s).2.1 := by
  have h := hw.faithful
  refine ⟨?_, fun σ _ s answer hanswer => ?_⟩
  · rcases visit_cases ⟨text, time, 0⟩ w with ⟨p, m, hm, heq⟩ | ⟨-, heq⟩
    · rw [h.rules_eq] at hm
      have hadd : w.add text time = _ := heq
      rw [hadd]
      exact h.matchOverlaps htolerance hdelta hfactor hlength hm _
    · have hadd : w.add text time = _ := heq
      rw [hadd]
      exact fun hmatched => nomatch hmatched
  · obtain ⟨result, hplaced, hresult⟩ := addShared_placed text time w s
    obtain ⟨p, rfl, rfl⟩ := hresult answer hanswer
    rw [h.rules_eq] at hplaced
    generalize (w.addShared text time s).2.1 = w' at hplaced
    cases hplaced with
    | joined hgrows hm =>
      exact (h.growsTo hgrows).matchOverlaps htolerance hdelta hfactor hlength hm _
    | made => exact fun hmatched => nomatch hmatched

end Linear

/-- Rules with the usual tolerance: one token does not count, and three count for one. -/
def usualRules : ClusterRules where
  preprocessor := .standard ["stop"] .words
  tolerance := (LinearTolerance.mk (1 : ℚ) 3).toTolerance

/-- A model with a cluster of four tokens. -/
def linkModel : CountedModel :=
  (CountedModel.add "link 1 is up" (.ofParts (.ofParts 2024 3 1) 43200 0)
    ⟨{ component := "kernel", rules := usualRules }, {}⟩).2

theorem joins_only_overlapping_link :
    let noon : Instant := .ofParts (.ofParts 2024 3 1) 43200 0
    let after := (linkModel.add "link 2 is down" noon).2
    linkModel.Reachable usualRules ∧ usualRules.maxTextLength ≤ maxWord ∧
      (linkModel.add "link 2 is down" noon).1 = ⟨0, .matched⟩ ∧
      ∃ c, after.model.cluster? 0 = some c ∧
        Overlap (Text.words c.representative) (Text.words (usualRules.normalized "link 2 is down")) := by
  intro noon after
  have hreached : linkModel.Reachable usualRules := .add _ _ (.new "kernel" {})
  have hlength : usualRules.maxTextLength ≤ maxWord := by decide
  have hmatched : (linkModel.add "link 2 is down" (.ofParts (.ofParts 2024 3 1) 43200 0)).1 =
      ⟨0, .matched⟩ := by decide +kernel
  obtain ⟨hoverlaps, -⟩ := joins_only_overlapping (t := LinearTolerance.mk (1 : ℚ) 3) hreached rfl
    (by norm_num) (by norm_num) hlength "link 2 is down" noon
  refine ⟨hreached, hlength, hmatched, ?_⟩
  rw [hmatched] at hoverlaps
  exact hoverlaps rfl

end CountedModel

end LogAnomaly
