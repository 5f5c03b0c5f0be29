import LogAnomaly.Proofs.Writers.Turn

/-!
# Overviews

A fleet as one sees it without its stores' machinery: the clusters that each store holds, the
writers and the answers.

* `Overview.Step`: a turn of one of the writers;
* `Overview.Sound`: what holds after any turns (`Reachable.sound`);
* `Overview.IsOutage`: the only errors that calls end with (`Reachable.outage`);
* `Overview.shown_of_reachable`: whatever a fleet comes to, some turns come to as well, so what is
  proved of turns holds of fleets, whatever lawful stores they have;
* `Overview.run_call`: the steps of a call that nobody interrupts are the whole call.
-/

namespace LogAnomaly

open LawfulStore

/-- Stored clusters, writers and all answers so far, the oldest one first. -/
structure Overview (ι κ : Type) where
  stored : κ → List TextCluster
  writers : ι → Writer
  answers : List (Answer ι) := []

/-- The answer that a writer gives. -/
def Reply.answers {ι : Type} (i : ι) : Reply → List (Answer ι)
  | none => []
  | some (call, result) => [⟨i, call, result⟩]

@[simp] theorem Reply.mem_answers {ι : Type} {i : ι} {reply : Reply} {a : Answer ι} :
    a ∈ Reply.answers i reply ↔ a.writer = i ∧ reply = some (a.call, a.result) := by
  obtain ⟨j, call, result⟩ := a
  cases reply with
  | none => simp [answers]
  | some r =>
    obtain ⟨call', result'⟩ := r
    simp only [answers, List.mem_singleton, Answer.mk.injEq, Option.some.injEq, Prod.mk.injEq]
    constructor
    · rintro ⟨rfl, rfl, rfl⟩
      exact ⟨rfl, rfl, rfl⟩
    · rintro ⟨rfl, rfl, rfl⟩
      exact ⟨rfl, rfl, rfl⟩

section Count

variable {ι : Type} [DecidableEq ι]

theorem answerCount_answers_of_ne {i j : ι} (h : j ≠ i) (answers : List (Answer ι))
    (reply : Reply) : answerCount j (answers ++ reply.answers i) = answerCount j answers := by
  rw [answerCount, answerCount, List.countP_append, Nat.add_eq_left, List.countP_eq_zero]
  intro a ha
  have := (Reply.mem_answers.1 ha).1
  simp [this, Ne.symm h]

theorem answerCount_answers_some (i : ι) (answers : List (Answer ι))
    (r : Call × Except AssignmentError Assignment) :
    answerCount i (answers ++ Reply.answers i (some r)) = answerCount i answers + 1 := by
  simp [answerCount, Reply.answers]

end Count

namespace Overview

variable {ι κ : Type} [DecidableEq ι] [DecidableEq κ]

/-- All writers as they start, at empty stores. -/
def begin (crew : Crew ι κ) : Overview ι κ where
  stored _ := []
  writers i := ⟨crew.clusterer i, .idle⟩

/-- The overview after a turn of a writer with a store. -/
def turned (v : Overview ι κ) (i : ι) (w : Writer) (k : κ) (stored : List TextCluster)
    (reply : Reply) : Overview ι κ where
  stored := Function.update v.stored k stored
  writers := Function.update v.writers i w
  answers := v.answers ++ reply.answers i

/-- The overview after a turn of a writer without a store. -/
def turnedAlone (v : Overview ι κ) (i : ι) (w : Writer) (reply : Reply) : Overview ι κ where
  stored := v.stored
  writers := Function.update v.writers i w
  answers := v.answers ++ reply.answers i

section Turned

variable {v : Overview ι κ} {i : ι} {w : Writer} {k : κ} {stored : List TextCluster}
  {reply : Reply}

@[simp] theorem turned_answers :
    (v.turned i w k stored reply).answers = v.answers ++ reply.answers i := rfl

@[simp] theorem turned_writers : (v.turned i w k stored reply).writers i = w :=
  Function.update_self ..

@[simp] theorem turned_writers_of_ne {j : ι} (h : j ≠ i) :
    (v.turned i w k stored reply).writers j = v.writers j := Function.update_of_ne h ..

@[simp] theorem turned_stored : (v.turned i w k stored reply).stored k = stored :=
  Function.update_self ..

@[simp] theorem turned_stored_of_ne {l : κ} (h : l ≠ k) :
    (v.turned i w k stored reply).stored l = v.stored l := Function.update_of_ne h ..

omit [DecidableEq κ] in
@[simp] theorem turnedAlone_stored : (v.turnedAlone i w reply).stored = v.stored := rfl

omit [DecidableEq κ] in
@[simp] theorem turnedAlone_answers :
    (v.turnedAlone i w reply).answers = v.answers ++ reply.answers i := rfl

omit [DecidableEq κ] in
@[simp] theorem turnedAlone_writers : (v.turnedAlone i w reply).writers i = w :=
  Function.update_self ..

omit [DecidableEq κ] in
@[simp] theorem turnedAlone_writers_of_ne {j : ι} (h : j ≠ i) :
    (v.turnedAlone i w reply).writers j = v.writers j := Function.update_of_ne h ..

end Turned

/-- A turn of one of the writers. -/
inductive Step (crew : Crew ι κ) (v : Overview ι κ) : Overview ι κ → Prop where
  | shared {i : ι} {k : κ} {w : Writer} {stored : List TextCluster} {reply : Reply} :
      crew.store i = some k →
      Turn (crew.clusterer i) v.answers.length (v.stored k) (v.writers i) w stored reply →
        Step crew v (v.turned i w k stored reply)
  | alone {i : ι} {w : Writer} {reply : Reply} :
      crew.store i = none →
      SoloTurn (crew.clusterer i) v.answers.length (v.writers i) w reply →
        Step crew v (v.turnedAlone i w reply)

/-- What turns come to that start with empty stores. -/
inductive Reachable (crew : Crew ι κ) : Overview ι κ → Prop where
  | begin : Reachable crew (begin crew)
  | step {v v' : Overview ι κ} : Reachable crew v → Step crew v v' → Reachable crew v'

variable {crew : Crew ι κ} {v v' : Overview ι κ}

theorem Step.grows (h : Step crew v v') (k : κ) : Grows (v.stored k) (v'.stored k) := by
  cases h with
  | @shared i l w stored reply _ ht =>
    by_cases hk : k = l
    · subst hk
      simpa using ht.grows
    · simpa [hk] using Grows.refl (v.stored k)
  | alone => exact .refl _

/-! ## Soundness -/

/-- What holds after any turns. -/
structure Sound (crew : Crew ι κ) (v : Overview ι κ) : Prop where
  ascending : ∀ k, IdsAscending (v.stored k)
  shared : ∀ i k, crew.store i = some k →
    (v.writers i).Sound (crew.clusterer i) (v.stored k)
  idle : ∀ i, crew.store i = none → (v.writers i).phase = .idle
  alone : ∀ i, crew.store i = none →
    (crew.clusterer i).counter.HasRoom (answerCount i v.answers + 1) →
      (v.writers i).Alone (crew.clusterer i) (answerCount i v.answers)
  supported : ∀ a ∈ v.answers, ∀ k, crew.store a.writer = some k → ∀ r, a.result = .ok r →
    Supports ((crew.clusterer a.writer).rules a.call.component) a.call (v.stored k) r

omit [DecidableEq κ] in
theorem Sound.begin (crew : Crew ι κ) : Sound crew (begin crew) where
  ascending _ := List.Pairwise.nil
  shared i k _ := .start (crew.models_eq i) (crew.next_eq i) []
  idle _ _ := rfl
  alone i _ _ := .start (crew.models_eq i) (crew.next_eq i) _
  supported a ha := by simp [Overview.begin] at ha

theorem Sound.turned (h : Sound crew v) {i : ι} {k : κ} {w : Writer} {stored : List TextCluster}
    {reply : Reply} (hi : crew.store i = some k)
    (ht : Turn (crew.clusterer i) v.answers.length (v.stored k) (v.writers i) w stored reply) :
    Sound crew (v.turned i w k stored reply) where
  ascending l := by
    by_cases hl : l = k
    · subst hl
      simpa using ht.idsAscending (h.ascending l)
    · simpa [hl] using h.ascending l
  shared j l hj := by
    by_cases hji : j = i
    · subst hji
      obtain rfl : k = l := Option.some.inj (hi.symm.trans hj)
      simpa using ht.sound (crew.models_eq j) (crew.next_eq j) (h.shared j k hj)
    · have := (h.shared j l hj).mono ((Step.shared hi ht).grows l)
      simpa [hji] using this
  idle j hj := by
    have hji : j ≠ i := fun hji => by simp [hji, hi] at hj
    simpa [hji] using h.idle j hj
  alone j hj := by
    have hji : j ≠ i := fun hji => by simp [hji, hi] at hj
    rw [turned_answers, answerCount_answers_of_ne hji, turned_writers_of_ne hji]
    exact h.alone j hj
  supported a ha l hl r hr := by
    have hgrows := (Step.shared hi ht).grows l
    rcases List.mem_append.1 ha with ha | ha
    · exact (h.supported a ha l hl r hr).mono hgrows
    · obtain ⟨hai, hreply⟩ := Reply.mem_answers.1 ha
      rw [hai] at hl ⊢
      obtain rfl : k = l := Option.some.inj (hi.symm.trans hl)
      rw [hreply, hr] at ht
      obtain ⟨c, o, p, hw, rfl, -⟩ := ht.of_ok
      have hphase := (h.shared i k hi).phase
      rw [hw] at hphase
      exact hphase.2.mono hgrows

omit [DecidableEq κ] in
theorem Sound.turnedAlone (h : Sound crew v) {i : ι} {w : Writer} {reply : Reply}
    (hi : crew.store i = none)
    (ht : SoloTurn (crew.clusterer i) v.answers.length (v.writers i) w reply) :
    Sound crew (v.turnedAlone i w reply) where
  ascending := h.ascending
  shared j l hj := by
    have hji : j ≠ i := fun hji => by simp [hji, hi] at hj
    simpa [hji] using h.shared j l hj
  idle j hj := by
    by_cases hji : j = i
    · subst hji
      simpa using ht.phase_eq
    · simpa [hji] using h.idle j hj
  alone j hj := by
    by_cases hji : j = i
    · subst hji
      rw [turnedAlone_answers, turnedAlone_writers]
      have hold := h.alone j hj
      generalize v.writers j = old at ht hold
      cases ht with
      | added =>
        rw [answerCount_answers_some]
        exact fun hroom => (hold (hroom.mono (Nat.le_succ _))).add hroom ..
      | restarted => exact fun _ => .start (crew.models_eq j) (crew.next_eq j) _
    · rw [turnedAlone_answers, answerCount_answers_of_ne hji, turnedAlone_writers_of_ne hji]
      exact h.alone j hj
  supported a ha l hl r hr := by
    rcases List.mem_append.1 ha with ha | ha
    · exact h.supported a ha l hl r hr
    · rw [(Reply.mem_answers.1 ha).1, hi] at hl
      cases hl

theorem Sound.step (h : Sound crew v) (hs : Step crew v v') : Sound crew v' := by
  cases hs with
  | shared hi ht => exact h.turned hi ht
  | alone hi ht => exact h.turnedAlone hi ht

theorem Reachable.sound (h : Reachable crew v) : Sound crew v := by
  induction h with
  | begin => exact .begin crew
  | step _ hs ih => exact ih.step hs

/-! ## Errors -/

/-- The error of a store that has failed, other than not to know a cluster that it should record a
day for. -/
def IsOutage (e : AssignmentError) : Prop :=
  ∃ component operation source, e = .store component operation source ∧
    (operation = .touch → ∀ n, source ≠ .unknownCluster n)

theorem Step.outage (hstep : Step crew v v') (hs : Sound crew v)
    (h : ∀ a ∈ v.answers, ∀ e, a.result = .error e → IsOutage e) :
    ∀ a ∈ v'.answers, ∀ e, a.result = .error e → IsOutage e := by
  intro a ha e he
  cases hstep with
  | @alone i w reply hi ht =>
    rcases List.mem_append.1 ha with ha | ha
    · exact h a ha e he
    · rw [(Reply.mem_answers.1 ha).2, he] at ht
      obtain ⟨-, r, hr⟩ := ht.reply_eq
      cases hr
  | @shared i k w stored reply hi ht =>
    rcases List.mem_append.1 ha with ha | ha
    · exact h a ha e he
    · rw [(Reply.mem_answers.1 ha).2, he] at ht
      rcases ht.of_error with ⟨component, operation, source, rfl, hop⟩ |
        ⟨c, o, p, source, hw, rfl, hunknown⟩
      · exact ⟨component, operation, source, rfl, fun htouch => absurd htouch hop⟩
      · refine ⟨_, _, _, rfl, fun _ n hn => ?_⟩
        -- the cluster that the text has been given is stored
        have hphase := (hs.shared i k hi).phase
        rw [hw] at hphase
        obtain ⟨x, hx, hid, -⟩ := hphase.2
        exact touchFirst_eq_none_iff.1 (hunknown n hn) x hx hid

/-- Calls fail only because the store does, and the store never fails to know a cluster. -/
theorem Reachable.outage (h : Reachable crew v) :
    ∀ a ∈ v.answers, ∀ e, a.result = .error e → IsOutage e := by
  induction h with
  | begin => exact fun a ha => nomatch ha
  | step hv hstep ih => exact hstep.outage hv.sound ih

/-! ## Fleets -/

section Fleets

variable {σ : κ → Type} [∀ k, ClusterStore (σ k)] [∀ k, LawfulStore (σ k)] {f f' : Fleet ι σ}

/-- The fleet has the writers and the answers of the overview, and its stores hold the clusters. -/
structure Shows (v : Overview ι κ) (f : Fleet ι σ) : Prop where
  holds : ∀ k, Holds (v.stored k) (f.stores k)
  writers_eq : f.writers = v.writers
  answers_eq : f.answers = v.answers

theorem Shows.turned (hs : v.Shows f) {i : ι} {k : κ}
    (hi : crew.store i = some k) {w : Writer} {stored : List TextCluster} {reply : Reply}
    (ht : Turn (crew.clusterer i) f.answers.length (v.stored k) (f.writers i) w stored reply)
    {s : σ k} (hstored : Holds stored s) (hstores : f'.stores = Function.update f.stores k s)
    (hwriters : f'.writers = Function.update f.writers i w)
    (hanswers : f'.answers = f.answers ++ reply.answers i) :
    ∃ v', Step crew v v' ∧ Shows v' f' := by
  rw [hs.writers_eq, hs.answers_eq] at ht
  refine ⟨v.turned i w k stored reply, .shared hi ht, fun l => ?_, ?_, ?_⟩
  · rw [hstores]
    by_cases hl : l = k
    · subst hl
      simpa using hstored
    · simpa [hl] using hs.holds l
  · rw [hwriters, hs.writers_eq]
    rfl
  · rw [hanswers, hs.answers_eq]
    rfl

/-- A turn that leaves the store alone. -/
theorem Shows.turned_writer (hs : v.Shows f) {i : ι} {k : κ}
    (hi : crew.store i = some k) {w : Writer}
    (ht : Turn (crew.clusterer i) f.answers.length (v.stored k) (f.writers i) w (v.stored k) none) :
    ∃ v', Step crew v v' ∧ Shows v' (f.setWriter i w) :=
  hs.turned hi ht (hs.holds k) (Function.update_eq_self k f.stores).symm rfl
    (List.append_nil _).symm

theorem Shows.turnedAlone (hs : v.Shows f) {i : ι}
    (hi : crew.store i = none) {w : Writer} {reply : Reply}
    (ht : SoloTurn (crew.clusterer i) f.answers.length (f.writers i) w reply)
    (hstores : f'.stores = f.stores) (hwriters : f'.writers = Function.update f.writers i w)
    (hanswers : f'.answers = f.answers ++ reply.answers i) :
    ∃ v', Step crew v v' ∧ Shows v' f' := by
  rw [hs.writers_eq, hs.answers_eq] at ht
  refine ⟨v.turnedAlone i w reply, .alone hi ht, fun l => ?_, ?_, ?_⟩
  · rw [hstores]
    exact hs.holds l
  · rw [hwriters, hs.writers_eq]
    rfl
  · rw [hanswers, hs.answers_eq]
    rfl

theorem Shows.callAlone (hs : v.Shows f) (hv : Reachable crew v) {i : ι}
    (hi : crew.store i = none) {call : Call} (hsince : call.since = f.answers.length) :
    ∃ v', Step crew v v' ∧ Shows v' (f.callAlone i call) := by
  cases hw : f.writers i with
  | mk c phase =>
    have hphase := hv.sound.idle i hi
    rw [← hs.writers_eq, hw] at hphase
    obtain rfl : phase = .idle := hphase
    have hturn : SoloTurn (crew.clusterer i) f.answers.length ⟨c, .idle⟩
        ⟨(c.add call.component call.text call.time).2, .idle⟩
        (some (call, .ok (c.add call.component call.text call.time).1)) := .added hsince
    rw [← hw] at hturn
    rw [Fleet.callAlone_eq hw]
    exact hs.turnedAlone hi hturn rfl rfl rfl

theorem Shows.search (hs : v.Shows f) {i : ι} {k : κ}
    (hi : crew.store i = some k) {c : Clusterer} (hw : f.writers i = ⟨c, .idle⟩) {call : Call}
    (hsince : call.since = f.answers.length) :
    ∃ v', Step crew v v' ∧ Shows v' (f.search i call) := by
  let o := (c.model call.component).rules.observe call.text call.time
  cases hm : (c.model call.component).matchAfter? 0 o with
  | some found =>
    rw [Fleet.search_of_match call hw rfl hm]
    refine hs.turned_writer hi ?_
    rw [hw]
    exact .found hsince rfl hm
  | none =>
    rw [Fleet.search_of_none call hw rfl hm]
    refine hs.turned_writer hi ?_
    rw [hw]
    exact .missed hsince rfl hm

theorem Shows.transact (hs : v.Shows f) (hv : Reachable crew v) {i : ι} {k : κ}
    (hi : crew.store i = some k) {c : Clusterer} {call : Call} {o : Observation}
    (hw : f.writers i = ⟨c, .missed call o⟩) :
    ∃ v', Step crew v v' ∧ Shows v' (f.transact i k call o) := by
  have hfollows : c.Follows (v.stored k) := by
    have := (hv.sound.shared i k hi).follows
    rwa [← hs.writers_eq, hw] at this
  obtain ⟨stored, hstored, ht⟩ := CountedModel.transact_transacted (o := o)
    (w := c.counted call.component) (hs.holds k) (hfollows.model_follows call.component)
  rw [Fleet.transact, hw]
  dsimp only
  rcases htransact : (c.counted call.component).transact o (f.stores k) with ⟨e | p, w, s⟩
  · rw [htransact] at hstored ht
    have hturn : Turn (crew.clusterer i) f.answers.length (v.stored k) ⟨c, .missed call o⟩
        ⟨c.update w, .idle⟩ stored (some (call, .error e)) := .refused ht
    rw [← hw] at hturn
    exact hs.turned hi hturn hstored rfl rfl rfl
  · rw [htransact] at hstored ht
    have hturn : Turn (crew.clusterer i) f.answers.length (v.stored k) ⟨c, .missed call o⟩
        ⟨c.update w, .placed call o p⟩ stored none := .placed ht
    rw [← hw] at hturn
    exact hs.turned hi hturn hstored rfl rfl (List.append_nil _).symm

theorem Shows.record (hs : v.Shows f) {i : ι} {k : κ}
    (hi : crew.store i = some k) {c : Clusterer} {call : Call} {o : Observation} {p : Placement}
    (hw : f.writers i = ⟨c, .placed call o p⟩) :
    ∃ v', Step crew v v' ∧ Shows v' (f.record i k call o p) := by
  rw [Fleet.record, hw]
  rcases recordDay_cases call.component o.day p (hs.holds k) with
    ⟨hadv, heq⟩ | ⟨hadv, s, stored, heq, htouch, hstored⟩ | ⟨hadv, e, s, heq, hstored, hunknown⟩
  · have hturn : Turn (crew.clusterer i) f.answers.length (v.stored k) ⟨c, .placed call o p⟩
        ⟨c, .idle⟩ (v.stored k) (some (call, .ok p.assignment)) := .settled hadv
    rw [← hw] at hturn
    rw [heq]
    exact hs.turned hi hturn (hs.holds k) rfl rfl rfl
  · have hturn : Turn (crew.clusterer i) f.answers.length (v.stored k) ⟨c, .placed call o p⟩
        ⟨c, .idle⟩ stored (some (call, .ok p.assignment)) := .noted hadv htouch
    rw [← hw] at hturn
    rw [heq]
    exact hs.turned hi hturn hstored rfl rfl rfl
  · have hturn : Turn (crew.clusterer i) f.answers.length (v.stored k) ⟨c, .placed call o p⟩
        ⟨c, .idle⟩ (v.stored k) (some (call, .error (.store call.component .touch e))) :=
      .unnoted hadv hunknown
    rw [← hw] at hturn
    rw [heq]
    exact hs.turned hi hturn hstored rfl rfl rfl

theorem Shows.load (hs : v.Shows f) {i : ι} {k : κ}
    (hi : crew.store i = some k) {c : Clusterer} (hw : f.writers i = ⟨c, .idle⟩) :
    f.load i k = f ∨ ∃ v', Step crew v v' ∧ Shows v' (f.load i k) := by
  rw [Fleet.load, hw, Clusterer.load]
  cases hload : ClusterStore.loadAll (f.stores k) with
  | error e => exact .inl rfl
  | ok loaded =>
    refine .inr (hs.turned_writer hi ?_)
    rw [hw]
    exact .loaded (loadAll_ok (hs.holds k) hload)

theorem Shows.restart (hs : v.Shows f) {i : ι} {c : Clusterer} (hw : f.writers i = ⟨c, .idle⟩) :
    ∃ v', Step crew v v' ∧ Shows v' (f.setWriter i ⟨crew.clusterer i, .idle⟩) := by
  cases hi : crew.store i with
  | none =>
    have hturn : SoloTurn (crew.clusterer i) f.answers.length ⟨c, .idle⟩
        ⟨crew.clusterer i, .idle⟩ none := .restarted
    rw [← hw] at hturn
    exact hs.turnedAlone hi hturn rfl rfl (List.append_nil _).symm
  | some k =>
    refine hs.turned_writer hi ?_
    rw [hw]
    exact .restarted

/-- A step of a fleet is a turn, or it changes nothing. -/
theorem Shows.act (hs : v.Shows f) (hv : Reachable crew v) (a : Action ι) :
    f.act crew a = f ∨ ∃ v', Step crew v v' ∧ Shows v' (f.act crew a) := by
  cases a with
  | call i component text time =>
    cases hi : crew.store i with
    | none =>
      have hphase : (f.writers i).phase = .idle := by
        rw [hs.writers_eq]
        exact hv.sound.idle i hi
      simp only [Fleet.act, hi, hphase]
      exact .inr (hs.callAlone hv hi rfl)
    | some k =>
      rcases hw : f.writers i with ⟨c, phase⟩
      cases phase with
      | idle =>
        simp only [Fleet.act, hi, hw]
        exact .inr (hs.search hi hw rfl)
      | missed | placed => exact .inl (by simp only [Fleet.act, hi, hw])
  | transact i =>
    cases hi : crew.store i with
    | none => exact .inl (by simp only [Fleet.act, hi])
    | some k =>
      rcases hw : f.writers i with ⟨c, phase⟩
      cases phase with
      | missed call o =>
        simp only [Fleet.act, hi, hw]
        exact .inr (hs.transact hv hi hw)
      | idle | placed => exact .inl (by simp only [Fleet.act, hi, hw])
  | record i =>
    cases hi : crew.store i with
    | none => exact .inl (by simp only [Fleet.act, hi])
    | some k =>
      rcases hw : f.writers i with ⟨c, phase⟩
      cases phase with
      | placed call o p =>
        simp only [Fleet.act, hi, hw]
        exact .inr (hs.record hi hw)
      | idle | missed => exact .inl (by simp only [Fleet.act, hi, hw])
  | load i =>
    cases hi : crew.store i with
    | none => exact .inl (by simp only [Fleet.act, hi])
    | some k =>
      rcases hw : f.writers i with ⟨c, phase⟩
      cases phase with
      | idle =>
        simp only [Fleet.act, hi, hw]
        exact hs.load hi hw
      | missed | placed => exact .inl (by simp only [Fleet.act, hi, hw])
  | restart i =>
    rcases hw : f.writers i with ⟨c, phase⟩
    cases phase with
    | idle =>
      simp only [Fleet.act, hw]
      exact .inr (hs.restart hw)
    | missed | placed => exact .inl (by simp only [Fleet.act, hw])

omit [DecidableEq ι] in
/-- A store may change in all but its clusters. -/
theorem Shows.disturb (hs : v.Shows f) {k : κ} {stored : List TextCluster} {s : σ k}
    (hold : Holds stored (f.stores k)) (hnew : Holds stored s) :
    v.Shows { f with stores := Function.update f.stores k s } := by
  have hstored : stored = v.stored k := holds_unique hold (hs.holds k)
  refine ⟨fun l => ?_, hs.writers_eq, hs.answers_eq⟩
  by_cases hl : l = k
  · subst hl
    simpa [hstored] using hnew
  · simpa [hl] using hs.holds l

/-- Whatever a fleet comes to is shown by what some turns come to. -/
theorem shown_of_reachable (h : f.Reachable crew) :
    ∃ v, Reachable crew v ∧ Shows v f := by
  induction h with
  | begin hempty => exact ⟨_, .begin, hempty, rfl, rfl⟩
  | act a _ ih =>
    obtain ⟨v, hv, hs⟩ := ih
    rcases hs.act hv a with hsame | ⟨v', hstep, hs'⟩
    · rw [hsame]
      exact ⟨v, hv, hs⟩
    · exact ⟨v', hv.step hstep, hs'⟩
  | disturb _ hold hnew ih =>
    obtain ⟨v, hv, hs⟩ := ih
    exact ⟨v, hv, hs.disturb hold hnew⟩

/-! ## Whole calls -/

/-- The steps of a call, taken at once, are the call. -/
theorem run_call (h : f.Reachable crew) {i : ι} {k : κ} (hi : crew.store i = some k)
    {c : Clusterer} (hw : f.writers i = ⟨c, .idle⟩) (component text : String) (time : Instant) :
    f.run crew [.call i component text time, .transact i, .record i] =
      (f.setBoth i ⟨(c.addShared component text time (f.stores k)).2.1, .idle⟩ k
        (c.addShared component text time (f.stores k)).2.2).answered i
        ⟨component, text, time, f.answers.length⟩
        (c.addShared component text time (f.stores k)).1 := by
  obtain ⟨v, hv, hs⟩ := shown_of_reachable h
  have hfollows : c.Follows (v.stored k) := by
    have := (hv.sound.shared i k hi).follows
    rwa [← hs.writers_eq, hw] at this
  have hcomp : (c.counted component).model.component = component := Clusterer.model_component ..
  let call : Call := ⟨component, text, time, f.answers.length⟩
  have hcall : f.act crew (.call i component text time) = f.search i call := by
    simp only [Fleet.act, hi, hw]
    rfl
  show ((f.act crew (.call i component text time)).act crew (.transact i)).act crew (.record i) = _
  rw [hcall, Clusterer.addShared, CountedModel.addShared, CountedModel.placeShared_eq]
  dsimp only
  generalize ho : (c.counted component).model.rules.observe text time = o
  cases hm : (c.counted component).model.matchAfter? 0 o with
  | some found =>
    obtain ⟨p, m⟩ := found
    have hmcomp : m.component = component := (ComponentModel.matchAfter?_kept hm).1.trans hcomp
    have hsearch : f.search i call =
        f.setWriter i ⟨c.update ⟨m, c.counter⟩, .placed call o p⟩ :=
      Fleet.search_of_match call hw ho hm
    rw [hsearch]
    simp [Fleet.act, Fleet.setWriter, Fleet.record, Fleet.setBoth, hi, hmcomp, Clusterer.counted,
      call]
  | none =>
    obtain ⟨stored, -, ht⟩ := CountedModel.transact_transacted (o := o)
      (w := c.counted component) (hs.holds k) (hfollows.model_follows component)
    have hself := Clusterer.counted_update c hcomp
    have htcomp := ht.component_eq
    have hupdate := Clusterer.update_update htcomp c
    have hsearch : f.search i call =
        f.setWriter i ⟨c.update (c.counted component), .missed call o⟩ :=
      Fleet.search_of_none call hw ho hm
    rw [hsearch]
    rcases htransact : (c.counted component).transact o (f.stores k) with ⟨e | p, w, s⟩
    · rw [htransact] at hupdate
      simp [Fleet.act, Fleet.setWriter, Fleet.transact, Fleet.answered, Fleet.setBoth, hi, hself,
        htransact, hupdate, call]
    · rw [htransact] at hupdate htcomp
      replace htcomp : w.model.component = component := htcomp.trans hcomp
      simp [Fleet.act, Fleet.setWriter, Fleet.transact, Fleet.record, Fleet.setBoth, hi, hself,
        htransact, hupdate, htcomp, call]

end Fleets

end Overview

end LogAnomaly
