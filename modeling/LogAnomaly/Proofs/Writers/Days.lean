import LogAnomaly.Proofs.Time.Order
import LogAnomaly.Proofs.Writers.Overview
import Mathlib.Order.Bounds.Defs

/-!
# Days

No day is lost between writers of a store, unless the store fails to record one.

* `Writer.DatedBut`: a writer knows no later day of a cluster than its store, except for the one
  that its call has yet to record, and for those that the store has missed. It is kept by a change
  of one model (`Writer.DatedBut.update`), so a turn keeps it (`Turn.datedBut`), and so does all
  that others do (`Writer.DatedBut.mono`);
* `Writer.Dated`: the same for a store that has missed none (`Turn.dated`);
* `Overview.Dated`: the store knows all days that calls have been answered for, and no others;
* `last_days_recorded`: so between calls the day of a stored cluster is the greatest of these.
-/

namespace LogAnomaly

open CountedModel LawfulStore

/-! ## Days that move forward -/

/-- No cluster of the first list has a later day than its like in the second one. -/
def Behind (cs ds : List TextCluster) : Prop :=
  ∀ c ∈ cs, ∀ d ∈ ds, d.id = c.id → c.lastObserved ≤ d.lastObserved

theorem Behind.refl {stored : List TextCluster} (hs : IdsAscending stored) :
    Behind stored stored := by
  intro x hx x' hx' hid
  rw [hs.eq_of_id hx' hx hid]
  exact Day.le_refl _

theorem behind_touchFirst {id : Nat} {day : Day} {stored stored' : List TextCluster}
    (hs : IdsAscending stored) (h : touchFirst id day stored = some stored') :
    Behind stored stored' := by
  intro x hx x' hx' hid
  rcases mem_touchFirst h hx' with hold | ⟨y, hy, -, rfl⟩
  · exact Behind.refl hs x hx x' hold hid
  · rw [← hs.eq_of_id hy hx hid]
    exact Day.le_latest_left ..

/-- A day that has been recorded is no later than that of the cluster. -/
theorem le_lastObserved_touchFirst {id : Nat} {day : Day} {stored stored' : List TextCluster}
    (hs : IdsAscending stored) (h : touchFirst id day stored = some stored') {x' : TextCluster}
    (hx' : x' ∈ stored') (hid : x'.id = id) : day ≤ x'.lastObserved := by
  have hs' := hs.of_map_identity (map_identity_touchFirst h)
  obtain ⟨before, c, after, rfl, hc, rfl⟩ := touchFirst_eq_some h
  have : x' = c.observedOn day := hs'.eq_of_id hx' (by simp) (hid.trans hc.symm)
  rw [this]
  exact Day.le_latest_right ..

theorem behind_concat {stored : List TextCluster} (hs : IdsAscending stored)
    (component text : String) (day : Day) :
    Behind stored (stored ++ [newCluster (greatestId stored) component text day]) := by
  intro x hx x' hx' hid
  rcases List.mem_append.1 hx' with hold | hnew
  · exact Behind.refl hs x hx x' hold hid
  · obtain rfl := List.mem_singleton.1 hnew
    have := id_lt_greatestId hx
    replace hid : idRank (greatestId stored) = x.id := hid
    omega

theorem Turn.behind {fresh : Clusterer} {count : Nat} {stored stored' : List TextCluster}
    {w w' : Writer} {reply : Reply} (h : Turn fresh count stored w w' stored' reply)
    (hs : IdsAscending stored) : Behind stored stored' := by
  cases h with
  | placed ht | refused ht =>
    rcases ht.stored_cases with rfl | ⟨-, rfl⟩
    · exact .refl hs
    · exact behind_concat hs _ _ _
  | noted _ ht => exact behind_touchFirst hs ht
  | found | missed | settled | unnoted | loaded | restarted => exact .refl hs

/-! ## Days that a store has missed

A store misses a day that it fails to record. The writer that has asked for it knows the day all
the same. -/

/-- No cluster of the first list has a later day than its like in the second one, but for the days
that have been missed. -/
def BehindBut (missed : Nat → Day → Prop) (cs ds : List TextCluster) : Prop :=
  ∀ c ∈ cs, ∀ d ∈ ds, d.id = c.id → c.lastObserved ≤ d.lastObserved ∨ missed c.id c.lastObserved

theorem Behind.but {cs ds : List TextCluster} (h : Behind cs ds) (missed : Nat → Day → Prop) :
    BehindBut missed cs ds := fun c hc d hd hid => .inl (h c hc d hd hid)

namespace BehindBut

variable {missed : Nat → Day → Prop} {cs ds stored stored' : List TextCluster}

theorem imp (h : BehindBut missed cs ds) {missed' : Nat → Day → Prop}
    (himp : ∀ id day, missed id day → missed' id day) : BehindBut missed' cs ds :=
  fun c hc d hd hid => (h c hc d hd hid).imp_right (himp _ _)

/-- Clusters that are backed by a store stay behind it. -/
theorem mono (h : BehindBut missed cs stored)
    (hback : ∀ c ∈ cs, ∃ x ∈ stored, x.identity = c.identity) (hb : Behind stored stored') :
    BehindBut missed cs stored' := by
  intro c hc x' hx' hid
  obtain ⟨x, hx, hxc⟩ := hback c hc
  have hxid := TextCluster.id_eq_of_identity hxc
  refine (h c hc x hx hxid).imp_left fun hle => ?_
  exact Day.le_trans hle (hb x hx x' hx' (hid.trans hxid.symm))

theorem append (hc : BehindBut missed cs stored) (hd : BehindBut missed ds stored) :
    BehindBut missed (cs ++ ds) stored := fun y hy =>
  (List.mem_append.1 hy).elim (hc y) (hd y)

theorem of_mem (h : BehindBut missed ds stored) (hmem : ∀ c ∈ cs, c ∈ ds) :
    BehindBut missed cs stored := fun c hc => h c (hmem c hc)

end BehindBut

/-! ## Days of calls in progress -/

/-- The day of the call is later than the one that the writer knew, and the store is yet to record
it. -/
def Phase.Owes (id : Nat) (day : Day) : Phase → Prop
  | .placed _ o p => p.advanced = true ∧ p.assignment.clusterId = id ∧ o.day = day
  | _ => False

/-- The store need not record the day of the call. -/
def Phase.Settles (id : Nat) (day : Day) : Phase → Prop
  | .placed _ o p => p.advanced = false ∧ p.assignment.clusterId = id ∧ o.day = day
  | _ => False

/-- The days that a writer may know before its store does. -/
def Phase.Excuses (missed : Nat → Day → Prop) (phase : Phase) (id : Nat) (day : Day) : Prop :=
  missed id day ∨ phase.Owes id day

/-- A day that the store need not record is no later than that of the cluster, or it has been
missed. -/
def Phase.SettledBut (missed : Nat → Day → Prop) (stored : List TextCluster) (phase : Phase) :
    Prop :=
  ∀ id day, phase.Settles id day → ∀ x ∈ stored, x.id = id → day ≤ x.lastObserved ∨ missed id day

/-- What a writer knows of days between two turns, if its store may miss some. -/
structure Writer.DatedBut (missed : Nat → Day → Prop) (stored : List TextCluster) (w : Writer) :
    Prop where
  held_behind : BehindBut (w.phase.Excuses missed) w.clusterer.held stored
  settled : w.phase.SettledBut missed stored

/-- What a writer knows of days between two turns. -/
def Writer.Dated (stored : List TextCluster) (w : Writer) : Prop :=
  w.DatedBut (fun _ _ => False) stored

namespace Writer.DatedBut

variable {missed missed' : Nat → Day → Prop} {stored stored' : List TextCluster} {w : Writer}

/-- A writer whose call owes no day is behind its store. -/
theorem behind (h : w.DatedBut missed stored) (howes : ∀ id day, ¬ w.phase.Owes id day) :
    BehindBut missed w.clusterer.held stored :=
  h.held_behind.imp fun _ _ hexcused => hexcused.resolve_right (howes _ _)

theorem of_behind {c : Clusterer} (h : BehindBut missed c.held stored) :
    Writer.DatedBut missed stored ⟨c, .idle⟩ where
  held_behind := h.imp fun _ _ => .inl
  settled _ _ hsettles := hsettles.elim

/-- A writer that knows no cluster knows no days. -/
theorem start {c : Clusterer} (hmodels : c.models = []) (missed : Nat → Day → Prop)
    (stored : List TextCluster) : Writer.DatedBut missed stored ⟨c, .idle⟩ :=
  .of_behind fun y hy => by simp [Clusterer.held, hmodels] at hy

theorem imp (h : w.DatedBut missed stored) (himp : ∀ id day, missed id day → missed' id day) :
    w.DatedBut missed' stored where
  held_behind := h.held_behind.imp fun _ _ => .imp_left (himp _ _)
  settled id day hsettles x hx hid := (h.settled id day hsettles x hx hid).imp_right (himp _ _)

/-- A writer stays behind its store while others bring the days of the store forward. -/
theorem mono {fresh : Clusterer} (h : w.DatedBut missed stored) (hs : w.Sound fresh stored)
    (hb : Behind stored stored') : w.DatedBut missed stored' where
  held_behind := h.held_behind.mono (fun _ => hs.follows.held_backed) hb
  settled id day hsettles x' hx' hid := by
    have hstored : ∃ x ∈ stored, x.id = id := by
      have hphase := hs.phase
      cases hp : w.phase with
      | idle | missed =>
        rw [hp] at hsettles
        exact hsettles.elim
      | placed call o p =>
        rw [hp] at hsettles hphase
        obtain ⟨x, hx, hxid, -⟩ := hphase.2
        exact ⟨x, hx, hxid.trans hsettles.2.1⟩
    obtain ⟨x, hx, hxid⟩ := hstored
    refine (h.settled id day hsettles x hx hxid).imp_left fun hle => ?_
    exact Day.le_trans hle (hb x hx x' hx' (hid.trans hxid.symm))

/-- A writer changes one model: the clusters of that model have to be behind the store, and so do
all that it held before. -/
theorem update {c : Clusterer} {own : List TextCluster} (hc : c.Follows own) {m : CountedModel}
    {phase : Phase} (hheld : BehindBut missed c.held stored)
    (hmodel : BehindBut (phase.Excuses missed) m.model.clusters stored)
    (hsettled : phase.SettledBut missed stored) :
    Writer.DatedBut missed stored ⟨c.update m, phase⟩ where
  held_behind := (hmodel.append (hheld.imp fun _ _ => .inl)).of_mem fun _ hy =>
    List.mem_append.2 (Clusterer.mem_held_update hc hy)
  settled := hsettled

end Writer.DatedBut

/-! ## Days of models -/

namespace BehindBut

variable {missed : Nat → Day → Prop} {stored : List TextCluster}

theorem model {c : Clusterer} (h : BehindBut missed c.held stored) (component : String) :
    BehindBut missed (c.model component).clusters stored :=
  h.of_mem fun _ => Clusterer.mem_held_of_model

/-- What a model takes in from a store has the days of the store. -/
theorem caughtUp {w : CountedModel} (h : BehindBut missed w.model.clusters stored)
    (hs : IdsAscending stored) : BehindBut missed (w.caughtUp stored).model.clusters stored := by
  refine (h.append ((Behind.refl hs).but missed)).of_mem fun y hy => ?_
  obtain ⟨fresh, hfresh, hmem⟩ := caughtUp_entries stored w
  obtain ⟨e, he, rfl⟩ := List.mem_map.1 hy
  rw [hfresh] at he
  rcases List.mem_append.1 he with he | he
  · exact List.mem_append_left _ (ComponentModel.mem_clusters he)
  · exact List.mem_append_right _ (hmem e he)

/-- A match passes the store by the day of the call at most, which the call then owes. -/
theorem matched {m m' : ComponentModel} (h : BehindBut missed m.clusters stored) {start : Nat}
    {o : Observation} {p : Placement} (hm : m.matchAfter? start o = some (p, m')) (call : Call) :
    BehindBut ((Phase.placed call o p).Excuses missed) m'.clusters stored := by
  obtain ⟨before, e, after, hentries, -, -, rfl, rfl⟩ := ComponentModel.matchAfter?_eq_some hm
  have he : e.cluster ∈ m.clusters := ComponentModel.mem_clusters (by simp [hentries])
  intro y hy x hx hid
  obtain ⟨d, hd, rfl⟩ := List.mem_map.1 hy
  rcases List.mem_cons.1 hd with rfl | hd
  · rcases Day.latest_cases e.cluster.lastObserved o.day with ⟨hlt, heq⟩ | ⟨-, heq⟩
    · exact .inr (.inr ⟨decide_eq_true hlt, rfl, heq.symm⟩)
    · show e.cluster.lastObserved.latest o.day ≤ _ ∨
        missed _ (e.cluster.lastObserved.latest o.day) ∨ _
      rw [heq]
      exact (h _ he x hx hid).imp_right .inl
  · refine (h _ (ComponentModel.mem_clusters ?_) x hx hid).imp_right .inl
    rw [hentries]
    rcases List.mem_append.1 hd with hd | hd
    · exact List.mem_append_left _ hd
    · exact List.mem_append_right _ (List.mem_cons_of_mem _ hd)

/-- A match on a day that the model knew is one that the store knows, or has missed. -/
theorem settled {m m' : ComponentModel} (h : BehindBut missed m.clusters stored)
    (hdown : ∀ id day day', day ≤ day' → missed id day' → missed id day) {start : Nat}
    {o : Observation} {p : Placement} (hm : m.matchAfter? start o = some (p, m')) (call : Call) :
    (Phase.placed call o p).SettledBut missed stored := by
  obtain ⟨before, e, after, hentries, -, -, rfl, rfl⟩ := ComponentModel.matchAfter?_eq_some hm
  have he : e.cluster ∈ m.clusters := ComponentModel.mem_clusters (by simp [hentries])
  rintro _ _ ⟨hadvanced, rfl, rfl⟩ x hx hid
  have hle := Day.not_lt.1 (of_decide_eq_false hadvanced)
  exact (h _ he x hx hid).imp (Day.le_trans hle) (hdown _ _ _ hle)

end BehindBut

/-! ## Turns -/

namespace Writer.DatedBut

variable {missed : Nat → Day → Prop} {stored : List TextCluster} {c : Clusterer}

/-- A match in one model, which may have caught up with the store first. -/
theorem matched {own : List TextCluster} (hc : c.Follows own)
    (hheld : BehindBut missed c.held stored) {m m' : ComponentModel}
    (hmodel : BehindBut missed m.clusters stored)
    (hdown : ∀ id day day', day ≤ day' → missed id day' → missed id day) {start : Nat}
    {o : Observation} {p : Placement} (hm : m.matchAfter? start o = some (p, m')) (call : Call)
    (counter : IdCounter) :
    Writer.DatedBut missed stored ⟨c.update ⟨m', counter⟩, .placed call o p⟩ :=
  .update hc hheld (hmodel.matched hm call) (hmodel.settled hdown hm call)

/-- A cluster that the store has just made has the day of the call, for the store and the model. -/
theorem made (hc : c.Follows stored) (hheld : BehindBut missed c.held stored)
    (hs : IdsAscending stored) (call : Call) (o : Observation) :
    Writer.DatedBut missed
      (stored ++ [newCluster (greatestId stored)
        (c.counted call.component).model.component o.text o.day])
      ⟨c.update (((c.counted call.component).caughtUp stored).adopt
          (idRank (greatestId stored)) o),
        .placed call o ⟨⟨idRank (greatestId stored), .created⟩, false⟩⟩ := by
  have hfollows := follows_caughtUp (w := c.counted call.component)
    (hc.model_follows call.component)
  have hcaught := BehindBut.caughtUp (w := c.counted call.component)
    (hheld.model call.component) hs
  have hb := behind_concat hs (c.counted call.component).model.component o.text o.day
  refine .update hc (hheld.mono (fun _ => hc.held_backed) hb) (fun y hy x hx hid => ?_) ?_
  · rcases List.mem_cons.1 hy with rfl | hy
    · rw [eq_newCluster hx hid]
      exact .inl (Day.le_refl _)
    · exact ((hcaught.mono hfollows.backed hb) y hy x hx hid).imp_right .inl
  · rintro _ _ ⟨-, rfl, rfl⟩ x hx hid
    rw [eq_newCluster hx hid]
    exact .inl (Day.le_refl _)

end Writer.DatedBut

/-- A turn keeps its writer from knowing later days than the store, but for those that the store has
missed. -/
theorem Turn.datedBut {fresh : Clusterer} {count : Nat} {stored stored' : List TextCluster}
    {w w' : Writer} {reply : Reply} (h : Turn fresh count stored w w' stored' reply)
    {missed : Nat → Day → Prop} (hmodels : fresh.models = []) (hs : IdsAscending stored)
    (hw : w.Sound fresh stored)
    (hdown : ∀ id day day', day ≤ day' → missed id day' → missed id day)
    (hmissed : ∀ c call o p e, w = ⟨c, .placed call o p⟩ →
      reply = some (call, .error (.store call.component .touch e)) →
        missed p.assignment.clusterId o.day)
    (hd : w.DatedBut missed stored) : w'.DatedBut missed stored' := by
  have hb := h.behind hs
  -- only a call that has been given its cluster owes a day
  have hheld := hd.behind
  cases h with
  | found _ _ hm =>
    replace hheld := hheld fun _ _ => id
    exact .matched hw.follows hheld (hheld.model _) hdown hm _ _
  | missed =>
    replace hheld := hheld fun _ _ => id
    exact .update hw.follows hheld ((hheld.model _).imp fun _ _ => .inl) fun _ _ => False.elim
  | @placed c call o p w stored' ht =>
    replace hheld := hheld fun _ _ => id
    cases ht with
    | found hm =>
      exact .matched hw.follows hheld ((hheld.model call.component).caughtUp hs) hdown hm call _
    | made hnone => exact .made hw.follows hheld hs call o
  | @refused c call o e w stored' ht =>
    replace hheld := hheld fun _ _ => id
    have hmodel := hheld.model call.component
    cases ht with
    | failed _ hw' =>
      refine .update hw.follows hheld (BehindBut.imp ?_ fun _ _ => .inl) fun _ _ => False.elim
      rcases hw' with rfl | rfl
      · exact hmodel
      · exact hmodel.caughtUp hs
  | @noted c call o p stored' hadvanced ht =>
    refine .of_behind fun y hy x' hx' hid => ?_
    obtain ⟨x, hx, hxy⟩ := hw.follows.held_backed hy
    have hxid := TextCluster.id_eq_of_identity hxy
    rcases hd.held_behind y hy x hx hxid with hle | hmiss | ⟨-, hpid, hday⟩
    · exact .inl (Day.le_trans hle (hb x hx x' hx' (hid.trans hxid.symm)))
    · exact .inr hmiss
    · rw [← hday]
      exact .inl (le_lastObserved_touchFirst hs ht hx' (hid.trans hpid.symm))
  | settled hadvanced =>
    refine .of_behind (hheld fun _ _ howes => ?_)
    exact Bool.false_ne_true (hadvanced.symm.trans howes.1)
  | @unnoted c call o p e _ _ =>
    -- the day that the call owes is the one that the store misses
    refine .of_behind (hd.held_behind.imp fun id day hexcused => hexcused.elim (fun h => h) ?_)
    rintro ⟨-, rfl, rfl⟩
    exact hmissed _ _ _ _ _ rfl rfl
  | @loaded c loaded hl =>
    replace hheld := hheld fun _ _ => id
    refine .of_behind ((((Behind.refl hs).but missed).append hheld).of_mem fun _ hy => ?_)
    exact List.mem_append.2 (Clusterer.mem_held_takeIn hw.follows hl hy)
  | restarted => exact .start hmodels missed stored

/-- A turn keeps its writer from knowing later days than the store, if the store does not fail to
record one. -/
theorem Turn.dated {fresh : Clusterer} {count : Nat} {stored stored' : List TextCluster}
    {w w' : Writer} {reply : Reply} (h : Turn fresh count stored w w' stored' reply)
    (hmodels : fresh.models = []) (hs : IdsAscending stored) (hw : w.Sound fresh stored)
    (htouch : ∀ call component e, reply ≠ some (call, .error (.store component .touch e)))
    (hd : w.Dated stored) : w'.Dated stored' :=
  h.datedBut hmodels hs hw (fun _ _ _ _ => id)
    (fun _ call _ _ e _ hreply => htouch call call.component e hreply) hd

section Turns

variable {fresh : Clusterer} {count : Nat} {stored stored' : List TextCluster} {w w' : Writer}
  {reply : Reply}

/-- The day of an answered call is in the store, unless the store has missed it. -/
theorem Turn.day_le_or_missed {call : Call} {a : Assignment} {missed : Nat → Day → Prop}
    (h : Turn fresh count stored w w' stored' (some (call, .ok a))) (hs : IdsAscending stored)
    (hw : w.Sound fresh stored) (hd : w.DatedBut missed stored) {x : TextCluster}
    (hx : x ∈ stored') (hid : x.id = a.clusterId) :
    call.time.day ≤ x.lastObserved ∨ missed a.clusterId call.time.day := by
  cases h with
  | @noted c call o p stored' _ ht =>
    have hday : o.day = call.time.day := by
      rw [hw.phase.1]
      rfl
    rw [← hday]
    exact .inl (le_lastObserved_touchFirst hs ht hx hid)
  | @settled c call o p hadvanced =>
    have hday : o.day = call.time.day := by
      rw [hw.phase.1]
      rfl
    exact hd.settled _ _ ⟨hadvanced, rfl, hday⟩ x hx hid

/-- The answer of a call that was given a cluster, on a day. -/
def Reply.Tells (id : Nat) (day : Day) (reply : Reply) : Prop :=
  ∃ call a, reply = some (call, .ok a) ∧ a.clusterId = id ∧ call.time.day = day

/-- A day that need not be recorded is told next. -/
theorem Turn.settles_cases (h : Turn fresh count stored w w' stored' reply)
    (hw : w.Sound fresh stored) {id : Nat} {day : Day} (hsettles : w.phase.Settles id day) :
    reply.Tells id day := by
  cases h with
  | found | missed | placed | refused | loaded | restarted => exact hsettles.elim
  | noted hadvanced | unnoted hadvanced =>
    have := hadvanced.symm.trans hsettles.1
    cases this
  | @settled c call o p _ =>
    obtain ⟨-, hid, rfl⟩ := hsettles
    refine ⟨_, _, rfl, hid, ?_⟩
    rw [hw.phase.1]
    rfl

/-- The days of a store are old, or those of the call. -/
theorem Turn.day_cases (h : Turn fresh count stored w w' stored' reply)
    (hw : w.Sound fresh stored) {x' : TextCluster} (hx' : x' ∈ stored') :
    (∃ x ∈ stored, x.id = x'.id ∧ x.lastObserved = x'.lastObserved) ∨
      w'.phase.Settles x'.id x'.lastObserved ∨ reply.Tells x'.id x'.lastObserved := by
  have hold : x' ∈ stored → ∃ x ∈ stored, x.id = x'.id ∧ x.lastObserved = x'.lastObserved :=
    fun hx => ⟨x', hx, rfl, rfl⟩
  cases h with
  | found | missed | settled | unnoted | loaded | restarted => exact .inl (hold hx')
  | @refused c call o e w stored' ht =>
    cases ht with
    | failed => exact .inl (hold hx')
  | @placed c call o p w stored' ht =>
    cases ht with
    | found => exact .inl (hold hx')
    | made =>
      rcases List.mem_append.1 hx' with hx | hx
      · exact .inl (hold hx)
      · obtain rfl := List.mem_singleton.1 hx
        exact .inr (.inl ⟨rfl, rfl, rfl⟩)
  | @noted c call o p stored' _ ht =>
    rcases mem_touchFirst ht hx' with hx | ⟨x, hx, hid, rfl⟩
    · exact .inl (hold hx)
    · rcases Day.latest_cases x.lastObserved o.day with ⟨-, heq⟩ | ⟨-, heq⟩
      · refine .inr (.inr ⟨_, _, rfl, hid.symm, ?_⟩)
        rw [TextCluster.observedOn_lastObserved, heq, hw.phase.1]
        rfl
      · exact .inl ⟨x, hx, rfl, heq.symm⟩

end Turns

/-! ## Overviews -/

namespace Overview

variable {ι κ : Type} [DecidableEq ι] [DecidableEq κ] {crew : Crew ι κ} {v v' : Overview ι κ}
  {k : κ}

/-- A call of a writer of the store, for a text of a day, was answered with a cluster. -/
def Told (crew : Crew ι κ) (k : κ) (answers : List (Answer ι)) (id : Nat) (day : Day) : Prop :=
  ∃ a ∈ answers, crew.store a.writer = some k ∧
    ∃ r, a.result = .ok r ∧ r.clusterId = id ∧ a.call.time.day = day

/-- The store has recorded all days that its writers have asked it to. -/
def Recorded (crew : Crew ι κ) (k : κ) (answers : List (Answer ι)) : Prop :=
  ∀ a ∈ answers, crew.store a.writer = some k → ∀ component e,
    a.result ≠ .error (.store component .touch e)

omit [DecidableEq ι] [DecidableEq κ] in
theorem told_append {answers : List (Answer ι)} {i : ι} {reply : Reply} {id : Nat} {day : Day} :
    Told crew k (answers ++ reply.answers i) id day ↔
      Told crew k answers id day ∨ (crew.store i = some k ∧ reply.Tells id day) := by
  constructor
  · rintro ⟨a, ha, hak, r, hr, hid, hday⟩
    rcases List.mem_append.1 ha with ha | ha
    · exact .inl ⟨a, ha, hak, r, hr, hid, hday⟩
    · obtain ⟨rfl, hreply⟩ := Reply.mem_answers.1 ha
      rw [hr] at hreply
      exact .inr ⟨hak, a.call, r, hreply, hid, hday⟩
  · rintro (⟨a, ha, hrest⟩ | ⟨hi, call, r, rfl, hid, hday⟩)
    · exact ⟨a, List.mem_append_left _ ha, hrest⟩
    · exact ⟨⟨i, call, .ok r⟩, List.mem_append_right _ (Reply.mem_answers.2 ⟨rfl, rfl⟩), hi,
        r, rfl, hid, hday⟩

/-- What holds of the days of a store after any turns. -/
structure Dated (crew : Crew ι κ) (k : κ) (v : Overview ι κ) : Prop where
  writers : ∀ i, crew.store i = some k → (v.writers i).Dated (v.stored k)
  told_le : ∀ id day, Told crew k v.answers id day →
    ∀ x ∈ v.stored k, x.id = id → day ≤ x.lastObserved
  /-- The day of a cluster has been told, or a call is about to tell it. -/
  attained : ∀ x ∈ v.stored k, Told crew k v.answers x.id x.lastObserved ∨
    ∃ i, crew.store i = some k ∧ (v.writers i).phase.Settles x.id x.lastObserved

omit [DecidableEq ι] [DecidableEq κ] in
/-- The turns of writers that do not have the store do not matter. -/
theorem Dated.of_other (h : Dated crew k v) {i : ι} {reply : Reply}
    (hi : crew.store i ≠ some k) (hstored : v'.stored k = v.stored k)
    (hwriters : ∀ j, j ≠ i → v'.writers j = v.writers j)
    (hanswers : v'.answers = v.answers ++ reply.answers i) : Dated crew k v' where
  writers j hj := by
    rw [hwriters j fun hji => hi (hji ▸ hj), hstored]
    exact h.writers j hj
  told_le id day htold := by
    rw [hanswers, told_append] at htold
    rw [hstored]
    exact h.told_le id day (htold.resolve_right fun hnew => hi hnew.1)
  attained x hx := by
    rw [hstored] at hx
    rw [hanswers, told_append]
    refine (h.attained x hx).imp .inl fun ⟨j, hj, hsettles⟩ => ⟨j, hj, ?_⟩
    rwa [hwriters j fun hji => hi (hji ▸ hj)]

theorem Dated.turned (h : Dated crew k v) (hs : Sound crew v) {i : ι} {w : Writer}
    {stored : List TextCluster} {reply : Reply} (hi : crew.store i = some k)
    (ht : Turn (crew.clusterer i) v.answers.length (v.stored k) (v.writers i) w stored reply)
    (hrecorded : Recorded crew k (v.turned i w k stored reply).answers) :
    Dated crew k (v.turned i w k stored reply) where
  writers j hj := by
    rw [turned_stored]
    by_cases hji : j = i
    · subst hji
      rw [turned_writers]
      refine ht.dated (crew.models_eq j) (hs.ascending k) (hs.shared j k hj) ?_ (h.writers j hj)
      rintro call component e rfl
      refine hrecorded ⟨j, call, _⟩ ?_ hj component e rfl
      exact List.mem_append_right _ (Reply.mem_answers.2 ⟨rfl, rfl⟩)
    · rw [turned_writers_of_ne hji]
      exact (h.writers j hj).mono (hs.shared j k hj) (ht.behind (hs.ascending k))
  told_le id day htold x' hx' hid := by
    rw [turned_stored] at hx'
    rw [turned_answers, told_append] at htold
    rcases htold with ⟨a, ha, hak, r, hr, hrid, hday⟩ | ⟨-, call, r, rfl, hrid, hday⟩
    · -- the cluster of an old answer is an old one
      obtain ⟨x, hx, hxid, -⟩ := hs.supported a ha k hak r hr
      have hxx : x'.id = x.id := hid.trans (hrid.symm.trans hxid.symm)
      have hle := h.told_le id day ⟨a, ha, hak, r, hr, hrid, hday⟩ x hx (hxid.trans hrid)
      exact Day.le_trans hle (ht.behind (hs.ascending k) x hx x' hx' hxx)
    · rw [← hday]
      have hle := ht.day_le_or_missed (hs.ascending k) (hs.shared i k hi) (h.writers i hi) hx'
        (hid.trans hrid.symm)
      exact hle.resolve_right not_false
  attained x' hx' := by
    rw [turned_stored] at hx'
    rw [turned_answers, told_append]
    rcases ht.day_cases (hs.shared i k hi) hx' with ⟨x, hx, hid, hday⟩ | hsettles | htells
    · rw [← hid, ← hday]
      rcases h.attained x hx with htold | ⟨j, hj, hsettles⟩
      · exact .inl (.inl htold)
      · by_cases hji : j = i
        · subst hji
          exact .inl (.inr ⟨hj, ht.settles_cases (hs.shared j k hj) hsettles⟩)
        · refine .inr ⟨j, hj, ?_⟩
          rwa [turned_writers_of_ne hji]
    · refine .inr ⟨i, hi, ?_⟩
      rwa [turned_writers]
    · exact .inl (.inr ⟨hi, htells⟩)

theorem Step.dated (hstep : Step crew v v') (hs : Sound crew v)
    (hrecorded : Recorded crew k v'.answers) (h : Dated crew k v) : Dated crew k v' := by
  cases hstep with
  | @alone i w reply hi ht =>
    refine h.of_other (i := i) ?_ rfl ?_ rfl
    · simp [hi]
    · exact fun j hji => turnedAlone_writers_of_ne hji
  | @shared i l w stored reply hi ht =>
    by_cases hl : l = k
    · subst hl
      exact h.turned hs hi ht hrecorded
    · refine h.of_other (i := i) ?_ ?_ ?_ rfl
      · rw [hi]
        exact fun heq => hl (Option.some.inj heq)
      · exact turned_stored_of_ne (Ne.symm hl)
      · exact fun j hji => turned_writers_of_ne hji

theorem Step.recorded (hstep : Step crew v v') (h : Recorded crew k v'.answers) :
    Recorded crew k v.answers := by
  cases hstep with
  | alone | shared => exact fun a ha => h a (List.mem_append_left _ ha)

theorem Reachable.dated (h : Reachable crew v) (hrecorded : Recorded crew k v.answers) :
    Dated crew k v := by
  induction h with
  | begin =>
    refine ⟨fun i _ => ?_, fun id day htold => ?_, fun x hx => ?_⟩
    · exact .start (crew.models_eq i) _ _
    · obtain ⟨a, ha, -⟩ := htold
      cases ha
    · cases hx
  | step hv hstep ih =>
    exact hstep.dated hv.sound hrecorded (ih (hstep.recorded hrecorded))

end Overview

namespace Fleet

variable {ι κ : Type} {σ : κ → Type} [DecidableEq ι] [DecidableEq κ] [∀ k, ClusterStore (σ k)]
  [∀ k, LawfulStore (σ k)] {crew : Crew ι κ} {f : Fleet ι σ} {k : κ}

/-- The store always knows the cluster that it is to record a day for. If it has recorded all days
that it was asked to, then a writer that is not in a call knows no later day of a cluster than the
store, and while no call is in progress the day of each stored cluster is the greatest one of the
calls that were answered with it. -/
theorem last_days_recorded (h : f.Reachable crew) :
    (∀ a ∈ f.answers, ∀ component id,
      a.result ≠ .error (.store component .touch (.unknownCluster id))) ∧
    ((∀ a ∈ f.answers, crew.store a.writer = some k → ∀ component e,
        a.result ≠ .error (.store component .touch e)) →
      ∃ stored, Holds stored (f.stores k) ∧
        (∀ i, crew.store i = some k → (f.writers i).phase = .idle →
          ∀ c ∈ (f.writers i).clusterer.held, ∃ x ∈ stored,
            x.id = c.id ∧ c.lastObserved ≤ x.lastObserved) ∧
        ((∀ i, crew.store i = some k → (f.writers i).phase = .idle) →
          ∀ x ∈ stored, IsGreatest
            {day | ∃ a ∈ f.answers, crew.store a.writer = some k ∧
              ∃ r, a.result = .ok r ∧ r.clusterId = x.id ∧ a.call.time.day = day}
            x.lastObserved)) := by
  obtain ⟨v, hv, hs⟩ := Overview.shown_of_reachable h
  rw [hs.answers_eq, hs.writers_eq]
  refine ⟨fun a ha component id he => ?_, fun hrecorded => ?_⟩
  · obtain ⟨_, _, _, heq, hunknown⟩ := hv.outage a ha _ he
    cases heq
    exact hunknown rfl id rfl
  · have hdated : Overview.Dated crew k v := hv.dated hrecorded
    refine ⟨v.stored k, hs.holds k, fun i hi hidle c hc => ?_, fun hidle x hx => ⟨?_, ?_⟩⟩
    · obtain ⟨x, hx, hxc⟩ := (hv.sound.shared i k hi).follows.held_backed hc
      have hid := TextCluster.id_eq_of_identity hxc
      refine ⟨x, hx, hid, ?_⟩
      have hbehind := (hdated.writers i hi).behind fun _ _ howes => by rwa [hidle] at howes
      exact (hbehind c hc x hx hid).resolve_right not_false
    · rcases hdated.attained x hx with htold | ⟨i, hi, hsettles⟩
      · exact htold
      · rw [hidle i hi] at hsettles
        exact hsettles.elim
    · intro day htold
      exact hdated.told_le x.id day htold x hx rfl

theorem last_days_recorded_race :
    (Race.fleet.stores ()).clusters.map (·.lastObserved) =
        [Race.secondDay.day, Race.secondDay.day] ∧
      ∃ stored, Holds stored (Race.fleet.stores ()) ∧
        ∀ x ∈ stored, IsGreatest
          {day | ∃ a ∈ Race.fleet.answers, Race.crew.store a.writer = some () ∧
            ∃ r, a.result = .ok r ∧ r.clusterId = x.id ∧ a.call.time.day = day}
          x.lastObserved := by
  have hrecorded : ∀ a ∈ Race.fleet.answers, Race.crew.store a.writer = some () →
      ∀ component e, a.result ≠ .error (.store component .touch e) := by
    intro a ha _ component e he
    rw [Race.fleet_answers] at ha
    have hok : ∀ a ∈ [Race.winner, Race.loser, Race.builder, Race.latecomer],
        a.result.toBool = true := by decide
    have := hok a ha
    rw [he] at this
    cases this
  have hidle : ∀ i, Race.crew.store i = some () → (Race.fleet.writers i).phase = .idle := by
    have hcalls : ∀ i, (Race.fleet.writers i).phase.call? = none := by decide +kernel
    intro i _
    have := hcalls i
    cases hphase : (Race.fleet.writers i).phase with
    | idle => rfl
    | missed | placed => simp [hphase, Phase.call?] at this
  obtain ⟨stored, hstored, -, hdays⟩ := (last_days_recorded Race.fleet_reachable).2 hrecorded
  exact ⟨by decide +kernel, stored, hstored, hdays hidle⟩

end Fleet

end LogAnomaly
