import LogAnomaly.Proofs.Writers.Days

/-!
# Days that are missed

A call notes the day of a match in its own model first and in the store then. If the store fails to
record the day, the call fails; but the model keeps the day, and a later call on that day has
nothing to record any more.

* `Fleet.Later`: a fleet after some more steps;
* `Fleet.Missed`: a call of a writer that has not been restarted since had matched a cluster, and
  the store failed to record its day;
* `Fleet.answered_day_recorded_or_missed`: so the day of an answered call is in the store from then
  on, unless the store has missed it or a later day of the cluster, with the same writer;
* `Forgotten`: a run in which it has, and `Fleet.answered_day_not_recorded`: the store never learns
  the day of an answered call.
-/

namespace LogAnomaly

open LawfulStore

/-! ## Days of stores -/

namespace Overview

variable {ι κ : Type} [DecidableEq ι] [DecidableEq κ] {crew : Crew ι κ} {v v' : Overview ι κ}

theorem Step.behind (hstep : Step crew v v') (hs : Sound crew v) (k : κ) :
    Behind (v.stored k) (v'.stored k) := by
  cases hstep with
  | @shared i l w stored reply _ ht =>
    by_cases hk : k = l
    · subst hk
      simpa using ht.behind (hs.ascending k)
    · simpa [hk] using Behind.refl (hs.ascending k)
  | alone => exact .refl (hs.ascending k)

end Overview

/-! ## Later fleets -/

namespace Fleet

variable {ι κ : Type} {σ : κ → Type} [DecidableEq ι] [DecidableEq κ] [∀ k, ClusterStore (σ k)]
  [∀ k, LawfulStore (σ k)] {crew : Crew ι κ} {f f' : Fleet ι σ} {i : ι} {k : κ}

/-- What a fleet comes to by steps of the given kind. -/
inductive Later (crew : Crew ι κ) (allowed : Action ι → Prop) (f : Fleet ι σ) :
    Fleet ι σ → Prop where
  | refl : Later crew allowed f f
  | act {f' : Fleet ι σ} {a : Action ι} :
      Later crew allowed f f' → allowed a → Later crew allowed f (f'.act crew a)
  | disturb {f' : Fleet ι σ} {k : κ} {stored : List TextCluster} {s : σ k} :
      Later crew allowed f f' → Holds stored (f'.stores k) → Holds stored s →
        Later crew allowed f { f' with stores := Function.update f'.stores k s }

/-- The stores of a later fleet have all clusters of the earlier one, none with an earlier day. -/
theorem Later.stored {allowed : Action ι → Prop} (h : f.Later crew allowed f') {v : Overview ι κ}
    (hv : Overview.Reachable crew v) (hs : v.Shows f) :
    ∃ v', Overview.Reachable crew v' ∧ v'.Shows f' ∧
      ∀ k, ∀ x ∈ v.stored k, ∃ x' ∈ v'.stored k,
        x'.identity = x.identity ∧ x.lastObserved ≤ x'.lastObserved := by
  induction h with
  | refl => exact ⟨v, hv, hs, fun k x hx => ⟨x, hx, rfl, Day.le_refl _⟩⟩
  | @act f' a _ _ ih =>
    obtain ⟨v', hv', hs', hstored⟩ := ih
    rcases hs'.act hv' a with hsame | ⟨v'', hstep, hs''⟩
    · rw [hsame]
      exact ⟨v', hv', hs', hstored⟩
    · refine ⟨v'', hv'.step hstep, hs'', fun k x hx => ?_⟩
      obtain ⟨x', hx', hid', hle'⟩ := hstored k x hx
      obtain ⟨x'', hx'', hid''⟩ := (hstep.grows k).kept x' hx'
      have hle'' := hstep.behind hv'.sound k x' hx' x'' hx'' (TextCluster.id_eq_of_identity hid'')
      exact ⟨x'', hx'', hid''.trans hid', Day.le_trans hle' hle''⟩
  | disturb _ hold hnew ih =>
    obtain ⟨v', hv', hs', hstored⟩ := ih
    exact ⟨v', hv', hs'.disturb hold hnew, hstored⟩

/-! ## Missed days -/

/-- The store has missed a day of the cluster, the given one or a later one: a call of the writer
had been given the cluster, and it failed since the day could not be recorded. The writer has not
been restarted since. -/
def Missed (crew : Crew ι κ) (f : Fleet ι σ) (i : ι) (id : Nat) (day : Day) : Prop :=
  ∃ (f' : Fleet ι σ) (a : Action ι) (call : Call) (o : Observation) (p : Placement)
    (e : StoreFault),
    f'.Reachable crew ∧ (f'.writers i).phase = .placed call o p ∧ p.assignment.clusterId = id ∧
      day ≤ call.time.day ∧
      (f'.act crew a).answers =
        f'.answers ++ [⟨i, call, .error (.store call.component .touch e)⟩] ∧
      (f'.act crew a).Later crew (fun b => b ≠ .restart i) f

theorem Missed.of_le {id : Nat} {day day' : Day} (hle : day ≤ day')
    (h : f.Missed crew i id day') : f.Missed crew i id day := by
  obtain ⟨f', a, call, o, p, e, hf, hphase, hid, hday, hanswers, hlater⟩ := h
  exact ⟨f', a, call, o, p, e, hf, hphase, hid, Day.le_trans hle hday, hanswers, hlater⟩

/-- What has been missed stays so until the writer is restarted. -/
theorem Missed.act {id : Nat} {day : Day} (h : f.Missed crew i id day) {a : Action ι}
    (ha : a ≠ .restart i) : (f.act crew a).Missed crew i id day := by
  obtain ⟨f', b, call, o, p, e, hf, hphase, hid, hday, hanswers, hlater⟩ := h
  exact ⟨f', b, call, o, p, e, hf, hphase, hid, hday, hanswers, hlater.act ha⟩

/-- A fleet and its overview, in which no writer knows a day that its store neither knows nor has
missed. -/
def DatedBut (crew : Crew ι κ) (f : Fleet ι σ) (v : Overview ι κ) : Prop :=
  ∀ i k, crew.store i = some k → (v.writers i).DatedBut (f.Missed crew i) (v.stored k)

/-- A turn of a fleet, other than a restart of the writer. -/
theorem DatedBut.turned {v v' : Overview ι κ} (hd : f.DatedBut crew v) (hf : f.Reachable crew)
    (hv : Overview.Reachable crew v) (hs : v.Shows f) {a : Action ι}
    (hstep : Overview.Step crew v v') (hs' : v'.Shows (f.act crew a)) (hi : crew.store i = some k)
    (ha : a ≠ .restart i) :
    (v'.writers i).DatedBut ((f.act crew a).Missed crew i) (v'.stored k) := by
  have hsound := hv.sound
  have hbehind := hstep.behind hsound k
  have hdi := (hd i k hi).imp fun id day h => h.act ha
  cases hstep with
  | @alone j w reply hj ht =>
    have hij : i ≠ j := fun hij => by simp [hij, hj] at hi
    simpa [hij] using hdi
  | @shared j l w stored reply hj ht =>
    by_cases hij : i = j
    · subst hij
      obtain rfl : l = k := Option.some.inj (hj.symm.trans hi)
      rw [Overview.turned_writers, Overview.turned_stored]
      refine ht.datedBut (crew.models_eq i) (hsound.ascending l) (hsound.shared i l hi)
        (fun _ _ _ hle h => h.of_le hle) (fun c call o p e hw hreply => ?_) hdi
      have hphase := (hsound.shared i l hi).phase
      rw [hw] at hphase
      have hday : o.day = call.time.day := by
        rw [hphase.1]
        rfl
      refine ⟨f, a, call, o, p, e, hf, ?_, rfl, hday ▸ Day.le_refl _, ?_, .refl⟩
      · rw [hs.writers_eq, hw]
      · rw [hs'.answers_eq, hs.answers_eq, Overview.turned_answers, hreply]
        rfl
    · rw [Overview.turned_writers_of_ne hij]
      by_cases hkl : k = l
      · subst hkl
        exact hdi.mono (hsound.shared i k hi) hbehind
      · rwa [Overview.turned_stored_of_ne hkl]

/-- A restarted writer knows nothing, unless it is in a call and goes on. -/
theorem DatedBut.restarted {v v' : Overview ι κ} (hd : f.DatedBut crew v) (hs : v.Shows f)
    (hs' : v'.Shows (f.act crew (.restart i))) (hi : crew.store i = some k) :
    (v'.writers i).DatedBut ((f.act crew (.restart i)).Missed crew i) (v'.stored k) := by
  have hgoes : f.act crew (.restart i) = f →
      (v'.writers i).DatedBut ((f.act crew (.restart i)).Missed crew i) (v'.stored k) := by
    intro hsame
    rw [hsame] at hs' ⊢
    rw [← hs'.writers_eq, hs.writers_eq, holds_unique (hs'.holds k) (hs.holds k)]
    exact hd i k hi
  cases hphase : (f.writers i).phase with
  | idle =>
    have hwriter : v'.writers i = ⟨crew.clusterer i, .idle⟩ := by
      rw [← hs'.writers_eq]
      simp only [Fleet.act, hphase, Fleet.setWriter, Function.update_self]
    rw [hwriter]
    exact .start (crew.models_eq i) _ _
  | missed | placed => exact hgoes (by simp only [Fleet.act, hphase])

/-- No writer ever knows a day that its store neither knows nor has missed. -/
theorem Reachable.datedBut (h : f.Reachable crew) :
    ∃ v, Overview.Reachable crew v ∧ v.Shows f ∧ f.DatedBut crew v := by
  induction h with
  | begin hempty =>
    exact ⟨_, .begin, ⟨hempty, rfl, rfl⟩, fun i k _ => .start (crew.models_eq i) _ _⟩
  | @act f a hf ih =>
    obtain ⟨v, hv, hs, hd⟩ := ih
    rcases hs.act hv a with hsame | ⟨v', hstep, hs'⟩
    · rw [hsame]
      exact ⟨v, hv, hs, hd⟩
    · refine ⟨v', hv.step hstep, hs', fun i k hi => ?_⟩
      by_cases ha : a = .restart i
      · subst ha
        exact hd.restarted hs hs' hi
      · exact hd.turned hf hv hs hstep hs' hi ha
  | @disturb f k stored s hf hold hnew ih =>
    obtain ⟨v, hv, hs, hd⟩ := ih
    refine ⟨v, hv, hs.disturb hold hnew, fun i l hi => (hd i l hi).imp fun id day h => ?_⟩
    obtain ⟨f', a, call, o, p, e, hf', hphase, hid, hday, hanswers, hlater⟩ := h
    exact ⟨f', a, call, o, p, e, hf', hphase, hid, hday, hanswers, hlater.disturb hold hnew⟩

/-- From the time on that a call of a writer with a store is answered with a cluster, the stored day
of the cluster is that of the call or a later one, unless the store has missed such a day when an
earlier call of the writer was given the same cluster. -/
theorem answered_day_recorded_or_missed (h : f.Reachable crew) (hi : crew.store i = some k)
    {action : Action ι} {call : Call} {a : Assignment}
    (hok : (f.act crew action).answers = f.answers ++ [⟨i, call, .ok a⟩])
    {allowed : Action ι → Prop}
    (hlater : (f.act crew action).Later crew allowed f') {stored : List TextCluster}
    (hstored : Holds stored (f'.stores k)) :
    ∃ x ∈ stored, x.id = a.clusterId ∧
      (call.time.day ≤ x.lastObserved ∨ f.Missed crew i a.clusterId call.time.day) := by
  obtain ⟨v, hv, hs, hd⟩ := h.datedBut
  have hanswered : ∃ v', Overview.Step crew v v' ∧ v'.Shows (f.act crew action) := by
    refine (hs.act hv action).resolve_left fun hsame => ?_
    rw [hsame] at hok
    simp at hok
  obtain ⟨v', hstep, hs'⟩ := hanswered
  have hanswers : v'.answers = v.answers ++ [⟨i, call, .ok a⟩] := by
    rw [← hs'.answers_eq, hok, hs.answers_eq]
  -- the cluster is stored when the call is answered, and its day is as late as the call or missed
  have hcluster : ∃ x ∈ v'.stored k, x.id = a.clusterId ∧
      (call.time.day ≤ x.lastObserved ∨ f.Missed crew i a.clusterId call.time.day) := by
    have hmem : (⟨i, call, .ok a⟩ : Answer ι) ∈ v'.answers := by simp [hanswers]
    obtain ⟨x, hx, hid, -⟩ := (hv.step hstep).sound.supported _ hmem k hi a rfl
    refine ⟨x, hx, hid, ?_⟩
    cases hstep with
    | @alone j w reply hj ht =>
      have hreply := List.append_cancel_left hanswers
      have hji := (Reply.mem_answers.1 (hreply ▸ List.mem_singleton_self _)).1
      rw [← hji, hi] at hj
      cases hj
    | @shared j l w stored reply hj ht =>
      have hreply := List.append_cancel_left hanswers
      obtain ⟨hji, hr⟩ := Reply.mem_answers.1 (hreply ▸ List.mem_singleton_self _)
      replace hji : i = j := hji
      subst hji hr
      obtain rfl : l = k := Option.some.inj (hj.symm.trans hi)
      rw [Overview.turned_stored] at hx
      exact ht.day_le_or_missed (hv.sound.ascending l) (hv.sound.shared i l hi) (hd i l hi) hx hid
  obtain ⟨x, hx, hid, hday⟩ := hcluster
  obtain ⟨v'', -, hs'', hkept⟩ := hlater.stored (hv.step hstep) hs'
  obtain ⟨x', hx', hxx, hle⟩ := hkept k x hx
  rw [holds_unique hstored (hs''.holds k)]
  refine ⟨x', hx', (TextCluster.id_eq_of_identity hxx).trans hid, ?_⟩
  exact hday.imp_left fun hday => Day.le_trans hday hle

end Fleet

/-! ## A day that is forgotten

The store does not record the day of the second call. The third call is for the same day: the writer
knows it by now, so the store is not asked again. -/

namespace Forgotten

def crew : Crew Unit Unit where
  store _ := some ()
  clusterer _ := Race.crew.clusterer true
  models_eq _ := rfl
  next_eq _ := rfl

/-- The text is stored, and its next day is missed. -/
def missed : Fleet Unit fun _ : Unit => UnreliableStore :=
  (Fleet.begin crew fun _ => { failing := [.touch] }).run crew
    [.call () "kernel" "up" Race.firstDay, .transact (), .record (),
      .call () "kernel" "up" Race.secondDay, .record ()]

/-- Then the store works again. -/
def mended : UnreliableStore := { missed.stores () with failing := [] }

/-- The writer is called once more and finds the text. -/
def found : Fleet Unit fun _ : Unit => UnreliableStore :=
  { missed with stores := Function.update missed.stores () mended }.act crew
    (.call () "kernel" "up" Race.secondDay)

/-- It has nothing to record. -/
def fleet : Fleet Unit fun _ : Unit => UnreliableStore := found.act crew (.record ())

def cluster : TextCluster := ⟨0, "kernel", "up", Race.firstDay.day⟩

/-- The last answer: the text matches, on the second day. -/
def answer : Answer Unit := ⟨(), ⟨"kernel", "up", Race.secondDay, 2⟩, .ok ⟨0, .matched⟩⟩

theorem missed_eq :
    missed.stores () = { inner := { clusters := [cluster] }, failing := [.touch] } := by
  decide +kernel

theorem missed_holds : Holds [cluster] (missed.stores ()) := by
  rw [missed_eq]
  exact ⟨rfl, rfl⟩

theorem mended_holds : Holds [cluster] mended := by
  rw [mended, missed_eq]
  exact ⟨rfl, rfl⟩

theorem found_reachable : found.Reachable crew := by
  have hstart : ∀ k : Unit,
      Holds [] ((fun _ => { failing := [.touch] } : Unit → UnreliableStore) k) :=
    fun _ => ⟨rfl, rfl⟩
  exact (((Fleet.Reachable.begin hstart).run _).disturb missed_holds mended_holds).act _

theorem fleet_answers : fleet.answers = found.answers ++ [answer] := by
  decide +kernel

theorem fleet_holds : Holds [cluster] (fleet.stores ()) := by
  have hstore : fleet.stores () = { inner := { clusters := [cluster] } } := by
    decide +kernel
  rw [hstore]
  exact ⟨rfl, rfl⟩

end Forgotten

/-- The writer has missed the day, which its store never learns. -/
theorem Fleet.answered_day_recorded_or_missed_forgotten :
    Forgotten.fleet.answers = Forgotten.found.answers ++ [Forgotten.answer] ∧
      Forgotten.found.Missed Forgotten.crew () 0 Race.secondDay.day := by
  obtain ⟨x, hx, -, hday⟩ := answered_day_recorded_or_missed Forgotten.found_reachable rfl
    Forgotten.fleet_answers (.refl : Later _ (fun _ => True) _ _) Forgotten.fleet_holds
  refine ⟨Forgotten.fleet_answers, hday.resolve_left ?_⟩
  obtain rfl := List.mem_singleton.1 hx
  decide

/-- The call is answered, and the store has an earlier day of the cluster. -/
theorem Fleet.answered_day_not_recorded :
    Forgotten.fleet.Reachable Forgotten.crew ∧
      Forgotten.answer ∈ Forgotten.fleet.answers ∧ Forgotten.answer.result = .ok ⟨0, .matched⟩ ∧
      ∃ stored, Holds stored (Forgotten.fleet.stores ()) ∧
        ¬ ∃ x ∈ stored, x.id = 0 ∧ Forgotten.answer.call.time.day ≤ x.lastObserved := by
  refine ⟨Forgotten.found_reachable.act _, ?_, rfl, [Forgotten.cluster], Forgotten.fleet_holds, ?_⟩
  · simp [Forgotten.fleet_answers]
  · rintro ⟨x, hx, -, hday⟩
    obtain rfl := List.mem_singleton.1 hx
    exact absurd hday (by decide)

end LogAnomaly
