import LogAnomaly.Proofs.Cluster.Clusterer
import LogAnomaly.Proofs.Cluster.Counter
import LogAnomaly.Proofs.Cluster.Transaction
import LogAnomaly.Proofs.Writers.Fleet

/-!
# Turns

One step of one writer, told by the lists of stored clusters alone:

* `Turn`: all that a step of a writer with a store can do to the writer and to the stored clusters,
  and the answer it gives; `SoloTurn`: the same for a writer without a store;
* `Writer.Sound`: what holds of every writer between two turns. A turn keeps it for the writer
  itself (`Turn.sound`), and what others do to the store keeps it too (`Writer.Sound.mono`).
-/

namespace LogAnomaly

open CountedModel

/-- The answer to a call, if a step gives one. -/
abbrev Reply := Option (Call × Except AssignmentError Assignment)

/-- One step of a writer that starts as `fresh`, after `count` answers of all writers: the writer,
the stored clusters and the answer after it. -/
inductive Turn (fresh : Clusterer) (count : Nat) (stored : List TextCluster) :
    Writer → Writer → List TextCluster → Reply → Prop where
  | found {c : Clusterer} {call : Call} {o : Observation} {p : Placement} {m : ComponentModel} :
      call.since = count → o = (c.model call.component).rules.observe call.text call.time →
      (c.model call.component).matchAfter? 0 o = some (p, m) →
        Turn fresh count stored ⟨c, .idle⟩ ⟨c.update ⟨m, c.counter⟩, .placed call o p⟩ stored none
  | missed {c : Clusterer} {call : Call} {o : Observation} :
      call.since = count → o = (c.model call.component).rules.observe call.text call.time →
      (c.model call.component).matchAfter? 0 o = none →
        Turn fresh count stored ⟨c, .idle⟩ ⟨c.update (c.counted call.component), .missed call o⟩
          stored none
  | placed {c : Clusterer} {call : Call} {o : Observation} {p : Placement} {w : CountedModel}
      {stored' : List TextCluster} :
      Transacted o (c.counted call.component) stored (.ok p) w stored' →
        Turn fresh count stored ⟨c, .missed call o⟩ ⟨c.update w, .placed call o p⟩ stored' none
  | refused {c : Clusterer} {call : Call} {o : Observation} {e : AssignmentError}
      {w : CountedModel} {stored' : List TextCluster} :
      Transacted o (c.counted call.component) stored (.error e) w stored' →
        Turn fresh count stored ⟨c, .missed call o⟩ ⟨c.update w, .idle⟩ stored'
          (some (call, .error e))
  | noted {c : Clusterer} {call : Call} {o : Observation} {p : Placement}
      {stored' : List TextCluster} :
      p.advanced = true → touchFirst p.assignment.clusterId o.day stored = some stored' →
        Turn fresh count stored ⟨c, .placed call o p⟩ ⟨c, .idle⟩ stored'
          (some (call, .ok p.assignment))
  /-- The day is not later than the one that the writer knew. -/
  | settled {c : Clusterer} {call : Call} {o : Observation} {p : Placement} :
      p.advanced = false →
        Turn fresh count stored ⟨c, .placed call o p⟩ ⟨c, .idle⟩ stored
          (some (call, .ok p.assignment))
  /-- The store fails to record the day. -/
  | unnoted {c : Clusterer} {call : Call} {o : Observation} {p : Placement} {e : StoreFault} :
      p.advanced = true →
      (∀ n, e = .unknownCluster n → touchFirst p.assignment.clusterId o.day stored = none) →
        Turn fresh count stored ⟨c, .placed call o p⟩ ⟨c, .idle⟩ stored
          (some (call, .error (.store call.component .touch e)))
  | loaded {c : Clusterer} {loaded : List TextCluster} :
      loaded.Perm stored →
        Turn fresh count stored ⟨c, .idle⟩ ⟨c.takeIn loaded, .idle⟩ stored none
  | restarted {c : Clusterer} : Turn fresh count stored ⟨c, .idle⟩ ⟨fresh, .idle⟩ stored none

/-- One step of a writer without a store. -/
inductive SoloTurn (fresh : Clusterer) (count : Nat) : Writer → Writer → Reply → Prop where
  | added {c : Clusterer} {call : Call} :
      call.since = count →
        SoloTurn fresh count ⟨c, .idle⟩ ⟨(c.add call.component call.text call.time).2, .idle⟩
          (some (call, .ok (c.add call.component call.text call.time).1))
  | restarted {c : Clusterer} : SoloTurn fresh count ⟨c, .idle⟩ ⟨fresh, .idle⟩ none

/-! ## The stored clusters -/

theorem CountedModel.Transacted.stored_cases {o : Observation} {w w' : CountedModel}
    {stored stored' : List TextCluster} {result : Except AssignmentError Placement}
    (h : Transacted o w stored result w' stored') :
    stored' = stored ∨
      (w.caughtUp stored).model.matchAfter? w.model.entries.length o = none ∧
        stored' = stored ++ [newCluster (greatestId stored) w.model.component o.text o.day] := by
  cases h with
  | failed => exact .inl rfl
  | found => exact .inl rfl
  | made hnone => exact .inr ⟨hnone, rfl⟩

section Stored

variable {fresh : Clusterer} {count : Nat} {stored stored' : List TextCluster} {w w' : Writer}
  {reply : Reply}

/-- A turn changes only days, or it adds a cluster after a search that has found nothing. -/
theorem Turn.stored_cases (h : Turn fresh count stored w w' stored' reply) :
    stored'.map TextCluster.identity = stored.map TextCluster.identity ∨
      ∃ c call o, w = ⟨c, .missed call o⟩ ∧
        ((c.counted call.component).caughtUp stored).model.matchAfter?
          (c.model call.component).entries.length o = none ∧
        stored' = stored ++ [newCluster (greatestId stored) call.component o.text o.day] := by
  cases h with
  | @placed c call o p w stored' ht | @refused c call o e w stored' ht =>
    rcases ht.stored_cases with rfl | ⟨hnone, rfl⟩
    · exact .inl rfl
    · refine .inr ⟨c, call, o, rfl, hnone, ?_⟩
      rw [show (c.counted call.component).model.component = call.component from
        Clusterer.model_component ..]
  | noted _ ht => exact .inl (map_identity_touchFirst ht)
  | found | missed | settled | unnoted | loaded | restarted => exact .inl rfl

theorem Turn.grows (h : Turn fresh count stored w w' stored' reply) : Grows stored stored' := by
  rcases h.stored_cases with hmap | ⟨c, call, o, -, -, rfl⟩
  · exact .of_map_identity hmap
  · exact .concat ..

theorem Turn.idsAscending (h : Turn fresh count stored w w' stored' reply)
    (hs : IdsAscending stored) : IdsAscending stored' := by
  rcases h.stored_cases with hmap | ⟨c, call, o, -, -, rfl⟩
  · exact hs.of_map_identity hmap
  · exact hs.concat ..

end Stored

/-! ## Answers -/

section Answers

variable {fresh : Clusterer} {count : Nat} {stored stored' : List TextCluster} {w w' : Writer}
  {call : Call}

/-- A call succeeds with the cluster that its text has been given. -/
theorem Turn.of_ok {a : Assignment}
    (h : Turn fresh count stored w w' stored' (some (call, .ok a))) :
    ∃ c o p, w = ⟨c, .placed call o p⟩ ∧ a = p.assignment ∧ w' = ⟨c, .idle⟩ := by
  cases h with
  | noted | settled => exact ⟨_, _, _, rfl, rfl, rfl⟩

/-- A call fails because the store does. -/
theorem Turn.of_error {e : AssignmentError}
    (h : Turn fresh count stored w w' stored' (some (call, .error e))) :
    (∃ component operation source, e = .store component operation source ∧ operation ≠ .touch) ∨
      ∃ c o p source, w = ⟨c, .placed call o p⟩ ∧ e = .store call.component .touch source ∧
        ∀ n, source = .unknownCluster n →
          touchFirst p.assignment.clusterId o.day stored = none := by
  cases h with
  | refused ht =>
    cases ht with
    | failed hop => exact .inl ⟨_, _, _, rfl, hop⟩
  | unnoted _ hsource => exact .inr ⟨_, _, _, _, rfl, rfl, hsource⟩

/-- Only a call that is in progress is answered. -/
theorem Turn.reply_call {result : Except AssignmentError Assignment}
    (h : Turn fresh count stored w w' stored' (some (call, result))) :
    w.phase.call? = some call := by
  cases h with
  | refused | noted | settled | unnoted => rfl

/-- A call in progress has just begun or was in progress before. -/
theorem Turn.call_cases {reply : Reply} (h : Turn fresh count stored w w' stored' reply)
    (hcall : w'.phase.call? = some call) : call.since = count ∨ w.phase.call? = some call := by
  cases h with
  | found hsince | missed hsince =>
    obtain rfl := Option.some.inj hcall
    exact .inl hsince
  | placed => exact .inr hcall
  | refused | noted | settled | unnoted | loaded | restarted => cases hcall

/-- A text is given a known cluster, or a new one after a search that has found nothing. -/
theorem Turn.placed_cases {reply : Reply} {c : Clusterer} {o : Observation} {p : Placement}
    (h : Turn fresh count stored w ⟨c, .placed call o p⟩ stored' reply) :
    p.assignment.outcome = .matched ∨ ∃ c, w = ⟨c, .missed call o⟩ ∧
      ((c.counted call.component).caughtUp stored).model.matchAfter?
        (c.model call.component).entries.length o = none := by
  cases h with
  | found _ _ hm =>
    obtain ⟨-, -, -, -, -, -, rfl, -⟩ := ComponentModel.matchAfter?_eq_some hm
    exact .inl rfl
  | placed ht =>
    cases ht with
    | found hm =>
      obtain ⟨-, -, -, -, -, -, rfl, -⟩ := ComponentModel.matchAfter?_eq_some hm
      exact .inl rfl
    | made hnone => exact .inr ⟨_, rfl, hnone⟩

end Answers

/-! ## Support -/

/-- An answer is supported if its cluster is stored for the component and close to the text; a new
one was made for just this text. -/
def Supports (rules : ClusterRules) (call : Call) (stored : List TextCluster) (a : Assignment) :
    Prop :=
  ∃ x ∈ stored, x.id = a.clusterId ∧ x.component = call.component ∧
    rules.near x.representative (rules.normalized call.text) = true ∧
    (a.outcome = .created → x.representative = rules.normalized call.text)

theorem Supports.mono {rules : ClusterRules} {call : Call} {stored stored' : List TextCluster}
    {a : Assignment} (h : Supports rules call stored a) (hg : Grows stored stored') :
    Supports rules call stored' a := by
  obtain ⟨x, hx, hid, hc, hacc, hrep⟩ := h
  obtain ⟨y, hy, hyx⟩ := hg.kept x hx
  obtain ⟨hyid, hyc, hyrep⟩ := TextCluster.identity_eq_iff.1 hyx
  exact ⟨y, hy, hyid.trans hid, hyc.trans hc, hyrep ▸ hacc, fun ho => hyrep.trans (hrep ho)⟩

/-- A match of a model that follows the store is supported. -/
theorem ComponentModel.Follows.supports {m m' : ComponentModel} {stored : List TextCluster}
    (h : m.Follows stored) {call : Call} {start : Nat} {p : Placement}
    (hm : m.matchAfter? start (m.rules.observe call.text call.time) = some (p, m'))
    (hc : m.component = call.component) : Supports m.rules call stored p.assignment := by
  obtain ⟨before, e, after, hentries, hacc, -, rfl, -⟩ := matchAfter?_eq_some hm
  have he : e ∈ m.entries := by simp [hentries]
  obtain ⟨x, hx, hxe⟩ := h.backed _ (mem_clusters he)
  obtain ⟨hid, hcomp, hrep⟩ := TextCluster.identity_eq_iff.1 hxe
  refine ⟨x, hx, hid, ?_, ?_, fun hcreated => by simp at hcreated⟩
  · rw [hcomp, h.component_eq _ (mem_clusters he), hc]
  · rw [ClusterRules.near, hrep, ← h.fingerprint_eq e he]
    exact hacc

/-! ## Writers between two turns -/

/-- What holds of a writer between two turns, by how far it has come. -/
def Phase.Sound (fresh c : Clusterer) (stored : List TextCluster) : Phase → Prop
  | .idle => True
  | .missed call o =>
    o = (fresh.rules call.component).observe call.text call.time ∧
      ∀ e ∈ (c.model call.component).entries,
        (fresh.rules call.component).accepts e.fingerprint o.fingerprint = false
  | .placed call o p =>
    o = (fresh.rules call.component).observe call.text call.time ∧
      Supports (fresh.rules call.component) call stored p.assignment

/-- What holds of a writer between two turns. -/
structure Writer.Sound (fresh : Clusterer) (stored : List TextCluster) (w : Writer) : Prop where
  follows : w.clusterer.Follows stored
  rules_eq : ∀ component, w.clusterer.rules component = fresh.rules component
  phase : w.phase.Sound fresh w.clusterer stored

namespace Writer.Sound

variable {fresh : Clusterer} {stored stored' : List TextCluster}

theorem start (hmodels : fresh.models = []) (hnext : fresh.counter.next = 0)
    (stored : List TextCluster) : Writer.Sound fresh stored ⟨fresh, .idle⟩ :=
  ⟨.new hmodels hnext stored, fun _ => rfl, trivial⟩

theorem mono {w : Writer} (h : w.Sound fresh stored) (hg : Grows stored stored') :
    w.Sound fresh stored' where
  follows := h.follows.mono hg
  rules_eq := h.rules_eq
  phase := by
    have := h.phase
    cases hp : w.phase with
    | idle => trivial
    | missed call o => rwa [hp] at this
    | placed call o p =>
      rw [hp] at this
      exact ⟨this.1, this.2.mono hg⟩

variable {c : Clusterer} {phase : Phase}

/-- The rules of the models are those that the writer started with. -/
theorem model_rules (h : Writer.Sound fresh stored ⟨c, phase⟩) (component : String) :
    (c.model component).rules = fresh.rules component :=
  (h.follows.model_rules component).trans (h.rules_eq component)

/-- The step of one model of a writer. -/
theorem update (h : Writer.Sound fresh stored ⟨c, phase⟩) (hg : Grows stored stored')
    {w : CountedModel} {component : String} (hw : w.model.Follows stored')
    (hc : w.model.component = component) (hr : w.model.rules = (c.model component).rules)
    (hcounts : Counts (c.counted component) w) {phase' : Phase}
    (hphase : phase'.Sound fresh (c.update w) stored') :
    Writer.Sound fresh stored' ⟨c.update w, phase'⟩ :=
  ⟨h.follows.update hg hw hc (hr.trans (h.follows.model_rules component)) hcounts,
    fun component => h.rules_eq component, hphase⟩

end Writer.Sound

/-- A writer that has caught up and finds no close cluster may rely on it: none of the stored
clusters of the component is close to its text. -/
theorem Writer.Sound.none_near {fresh c : Clusterer} {stored : List TextCluster} {call : Call}
    {o : Observation} (h : Writer.Sound fresh stored ⟨c, .missed call o⟩)
    (hs : IdsAscending stored)
    (hnone : ((c.counted call.component).caughtUp stored).model.matchAfter?
      (c.model call.component).entries.length o = none)
    {x : TextCluster} (hx : x ∈ stored) (hc : x.component = call.component) :
    (fresh.rules call.component).near x.representative o.text = false := by
  have hf := h.follows.model_follows call.component
  have hcaught := follows_caughtUp (w := c.counted call.component) hf
  have hrules : ((c.counted call.component).caughtUp stored).model.rules =
      fresh.rules call.component := (caughtUp_rules ..).trans (h.model_rules _)
  -- the cluster is among the entries of the model that has caught up
  obtain ⟨d, hd, hdx⟩ := (hcaught.mem_ids _).1
    (caughtUp_knows (w := c.counted call.component) hf hx
      (hc.trans (Clusterer.model_component ..).symm))
  obtain ⟨e, he, rfl⟩ := List.mem_map.1 hd
  obtain ⟨y, hy, hye⟩ := hcaught.backed _ hd
  obtain ⟨hyid, -, hyrep⟩ := TextCluster.identity_eq_iff.1 hye
  have hyx : y = x := hs.eq_of_id hy hx (hyid.trans hdx)
  have hfp : e.fingerprint = (fresh.rules call.component).fingerprint x.representative := by
    rw [hcaught.fingerprint_eq e he, hrules, ← hyx, hyrep]
  have ho : o.fingerprint = (fresh.rules call.component).fingerprint o.text := by
    rw [h.phase.1]
    rfl
  rw [ClusterRules.near, ← hfp, ← ho]
  -- it is an old entry, which the search before the transaction has passed over, or a new one
  obtain ⟨new, hnew, -⟩ := caughtUp_entries stored (c.counted call.component)
  rw [hnew] at he
  rcases List.mem_append.1 he with he | he
  · exact h.phase.2 e he
  · rw [ComponentModel.matchAfter?_eq_none_iff, hrules] at hnone
    refine hnone e ?_
    rw [hnew]
    have hlen : (c.counted call.component).model.entries.length =
        (c.model call.component).entries.length := rfl
    rwa [List.drop_left' hlen]

theorem Writer.Sound.transacted {fresh c : Clusterer} {stored stored' : List TextCluster}
    {call : Call} {o : Observation} {result : Except AssignmentError Placement}
    {w : CountedModel} (h : Writer.Sound fresh stored ⟨c, .missed call o⟩)
    (ht : Transacted o (c.counted call.component) stored result w stored') {phase : Phase}
    (hphase : phase.Sound fresh (c.update w) stored') :
    Writer.Sound fresh stored' ⟨c.update w, phase⟩ := by
  have hf := h.follows.model_follows call.component
  have hcaught := follows_caughtUp (w := c.counted call.component) hf
  have hcomp : (c.counted call.component).model.component = call.component :=
    Clusterer.model_component ..
  cases ht with
  | failed _ hw =>
    rcases hw with rfl | rfl
    · exact h.update (.refl _) hf hcomp rfl (.of_ids rfl rfl) hphase
    · exact h.update (.refl _) hcaught ((caughtUp_component ..).trans hcomp) (caughtUp_rules ..)
        (counts_caughtUp ..) hphase
  | found hm =>
    obtain ⟨hc, hr, hids, -⟩ := ComponentModel.matchAfter?_kept hm
    rw [caughtUp_component, hcomp] at hc
    rw [caughtUp_rules] at hr
    have hlast : Counts ((c.counted call.component).caughtUp stored)
        { (c.counted call.component).caughtUp stored with model := _ } := .of_ids hids rfl
    have hmodel := hcaught.matched hm
    exact h.update (.refl _) hmodel hc hr ((counts_caughtUp ..).trans hlast) hphase
  | made hnone =>
    have ho : o.fingerprint =
        ((c.counted call.component).caughtUp stored).model.rules.fingerprint o.text := by
      rw [caughtUp_rules, show (c.counted call.component).model.rules = _ from h.model_rules _,
        h.phase.1]
      rfl
    have hall : ∀ x ∈ stored,
        x.component = ((c.counted call.component).caughtUp stored).model.component →
          x.id ∈ ((c.counted call.component).caughtUp stored).model.ids := fun x hx hc => by
      rw [caughtUp_component] at hc
      exact caughtUp_knows hf hx hc
    have hmodel := follows_adopt hcaught hall ho
    have hlast := counts_adopt (idRank (greatestId stored)) o
      ((c.counted call.component).caughtUp stored)
    rw [caughtUp_component] at hmodel
    exact h.update (.concat ..) hmodel ((caughtUp_component ..).trans hcomp) (caughtUp_rules ..)
      ((counts_caughtUp ..).trans hlast) hphase

/-- The cluster that a transaction gives to a text is one for the text. -/
theorem Writer.Sound.supports {fresh c : Clusterer} {stored stored' : List TextCluster}
    {call : Call} {o : Observation} {p : Placement} {w : CountedModel}
    (h : Writer.Sound fresh stored ⟨c, .missed call o⟩)
    (ht : Transacted o (c.counted call.component) stored (.ok p) w stored') :
    Supports (fresh.rules call.component) call stored' p.assignment := by
  have hcaught := follows_caughtUp (w := c.counted call.component)
    (h.follows.model_follows call.component)
  have hcomp : (c.counted call.component).model.component = call.component :=
    Clusterer.model_component ..
  have hrules : ((c.counted call.component).caughtUp stored).model.rules =
      fresh.rules call.component := (caughtUp_rules ..).trans (h.model_rules _)
  have ho := h.phase.1
  cases ht with
  | found hm =>
    rw [ho, ← hrules] at hm
    rw [← hrules]
    exact hcaught.supports hm ((caughtUp_component ..).trans hcomp)
  | made hnone =>
    refine ⟨_, List.mem_append_right _ (List.mem_singleton_self _), rfl, hcomp, ?_, fun _ => ?_⟩
    · rw [ho]
      exact ClusterRules.near_self ..
    · rw [ho]
      rfl

/-- A turn keeps its writer sound. -/
theorem Turn.sound {fresh : Clusterer} {count : Nat} {stored stored' : List TextCluster}
    {w w' : Writer} {reply : Reply} (h : Turn fresh count stored w w' stored' reply)
    (hmodels : fresh.models = []) (hnext : fresh.counter.next = 0)
    (hw : w.Sound fresh stored) : w'.Sound fresh stored' := by
  cases h with
  | @found c call o p m hsince ho hm =>
    have hf := hw.follows.model_follows call.component
    have hcomp : (c.model call.component).component = call.component :=
      Clusterer.model_component ..
    obtain ⟨hc, hr, hids, -⟩ := ComponentModel.matchAfter?_kept hm
    have hcounts : Counts (c.counted call.component) ⟨m, c.counter⟩ := .of_ids hids rfl
    refine hw.update (.refl _) (hf.matched hm) (hc.trans hcomp) hr hcounts
      ⟨?_, ?_⟩
    · rw [ho, hw.model_rules]
    · rw [ho] at hm
      have := hf.supports hm hcomp
      rwa [hw.model_rules] at this
  | @missed c call o hsince ho hm =>
    have hf := hw.follows.model_follows call.component
    have hcomp : (c.counted call.component).model.component = call.component :=
      Clusterer.model_component ..
    refine hw.update (.refl _) hf hcomp rfl (.of_ids rfl rfl) ⟨?_, ?_⟩
    · rw [ho, hw.model_rules]
    · have hmodel : (c.update (c.counted call.component)).model call.component =
          c.model call.component := congrArg CountedModel.model (Clusterer.counted_update c hcomp)
      rw [hmodel, ← hw.model_rules]
      rw [ComponentModel.matchAfter?_eq_none_iff, List.drop_zero] at hm
      exact hm
  | placed ht => exact hw.transacted ht ⟨hw.phase.1, hw.supports ht⟩
  | refused ht => exact hw.transacted ht trivial
  | noted _ ht => exact ⟨hw.follows.mono (.touchFirst ht), hw.rules_eq, trivial⟩
  | settled | unnoted => exact ⟨hw.follows, hw.rules_eq, trivial⟩
  | loaded hl =>
    refine ⟨hw.follows.takeIn hl, fun component => ?_, trivial⟩
    rw [Clusterer.rules_takeIn]
    exact hw.rules_eq component
  | restarted => exact .start hmodels hnext stored

/-! ## Writers without a store -/

/-- What holds of a writer without a store that has given no more than `n` answers. It is in step with
a list of all clusters that it has ever made, as if that were a store of its own. -/
structure Writer.Alone (fresh : Clusterer) (n : Nat) (w : Writer) : Prop where
  follows : ∃ own, IdsAscending own ∧ w.clusterer.Follows own ∧
    w.clusterer.counter.next = idRank (greatestId own)
  rules_eq : ∀ component, w.clusterer.rules component = fresh.rules component
  /-- An answer makes one cluster at most. -/
  next_le : w.clusterer.counter.next ≤ n
  limit_eq : w.clusterer.counter.limit = fresh.counter.limit

namespace Writer.Alone

variable {fresh c : Clusterer} {n : Nat}

theorem start (hmodels : fresh.models = []) (hnext : fresh.counter.next = 0) (n : Nat) :
    Writer.Alone fresh n ⟨fresh, .idle⟩ where
  follows := ⟨[], List.Pairwise.nil, .new hmodels hnext [], hnext⟩
  rules_eq _ := rfl
  next_le := hnext ▸ Nat.zero_le n
  limit_eq := rfl

theorem mono {w : Writer} (h : w.Alone fresh n) {m : Nat} (hle : n ≤ m) : w.Alone fresh m :=
  { h with next_le := Nat.le_trans h.next_le hle }

/-- The cluster that a writer makes for itself. -/
theorem create (h : Writer.Alone fresh n ⟨c, .idle⟩) (hroom : fresh.counter.HasRoom (n + 2))
    {component : String} {o : Observation}
    (ho : o.fingerprint = (c.rules component).fingerprint o.text) :
    Writer.Alone fresh (n + 1) ⟨c.update ((c.counted component).create o).2, .idle⟩ := by
  obtain ⟨own, hown, hf, hnext⟩ := h.follows
  replace hnext : c.counter.next = idRank (greatestId own) := hnext
  have hle : c.counter.next ≤ n := h.next_le
  have hlimit : c.counter.limit = fresh.counter.limit := h.limit_eq
  have hlasts : c.counter.Lasts 1 := fun limit heq => by
    have := (hroom limit (hlimit ▸ heq)).2
    omega
  have hmodel := hf.model_follows component
  have hcomp : (c.model component).component = component := Clusterer.model_component ..
  have hput := hmodel.putInFront (o := o) (by rw [ho, ← hf.model_rules])
  have hcreate : ((c.counted component).create o).2 =
      ⟨(c.model component).putInFront (idRank (greatestId own)) o,
        c.counter.reserve (idRank (greatestId own))⟩ := by
    rw [CountedModel.create, show (c.counted component).counter = c.counter from rfl,
      IdCounter.giveId_of_lasts hlasts, hnext]
    rfl
  rw [hcreate]
  have hcounts : Counts (c.counted component)
      ⟨(c.model component).putInFront (idRank (greatestId own)) o,
        c.counter.reserve (idRank (greatestId own))⟩ := .reserve rfl rfl
  exact {
    follows := by
      refine ⟨_, hown.concat (c.model component).component o.text o.day,
        hf.update (.concat ..) hput hcomp (hf.model_rules component) hcounts, ?_⟩
      rw [idRank_greatestId_concat]
      show max c.counter.next (idRank (greatestId own) + 1) = _
      omega
    rules_eq := h.rules_eq
    next_le := by
      show max c.counter.next (idRank (greatestId own) + 1) ≤ n + 1
      omega
    limit_eq := hlimit }

/-- A call keeps a writer without a store sound, as long as its counter does not start over. -/
theorem add (h : Writer.Alone fresh n ⟨c, .idle⟩) (hroom : fresh.counter.HasRoom (n + 2))
    (component text : String) (time : Instant) :
    Writer.Alone fresh (n + 1) ⟨(c.add component text time).2, .idle⟩ := by
  obtain ⟨own, hown, hf, hnext⟩ := h.follows
  show Writer.Alone fresh (n + 1) ⟨c.update ((c.counted component).add text time).2, .idle⟩
  rw [CountedModel.add_eq]
  split
  · rename_i p m hm
    obtain ⟨hc, hr, hids, -⟩ := ComponentModel.matchAfter?_kept hm
    have hcomp : m.component = component := hc.trans (Clusterer.model_component ..)
    have hcounts : Counts (c.counted component) ⟨m, c.counter⟩ := .of_ids hids rfl
    have hfollows := hf.update (.refl _) ((hf.model_follows component).matched hm) hcomp
      (hr.trans (hf.model_rules _)) hcounts
    exact ⟨⟨own, hown, hfollows, hnext⟩, h.rules_eq, Nat.le_succ_of_le h.next_le, h.limit_eq⟩
  · have hrules : (c.model component).rules = c.rules component := hf.model_rules _
    refine h.create hroom ?_
    rw [← hrules]
    rfl

end Writer.Alone

/-! ## Turns of writers without a store -/

section Solo

variable {fresh : Clusterer} {count : Nat} {w w' : Writer} {reply : Reply}

/-- A writer without a store is never within a call. -/
theorem SoloTurn.phase_eq (h : SoloTurn fresh count w w' reply) : w'.phase = .idle := by
  cases h with
  | added | restarted => rfl

/-- A call without a store succeeds at once. -/
theorem SoloTurn.reply_eq {call : Call} {result : Except AssignmentError Assignment}
    (h : SoloTurn fresh count w w' (some (call, result))) :
    call.since = count ∧ ∃ a, result = .ok a := by
  cases h with
  | added hsince => exact ⟨hsince, _, rfl⟩

end Solo

end LogAnomaly
