import LogAnomaly.Proofs.Writers.Apart

/-!
# Answers that agree

Like writers of a store tell the same of a text, whenever they are asked:

* `Overview.Stamped`: a call begins after all answers that it counts;
* `Overview.Novel`: a cluster is made for a text only if no writer has answered a call with that
  text before. An answer leaves a stored cluster behind that is close to its text
  (`Overview.Sound`), so a later search in the transaction finds one (`Sound.not_answered`);
* `later_answer_matched`: so a text that has been answered is never again given a new cluster, and
  one that has made a cluster stays with it. The latter needs a symmetric tolerance: of two stored
  clusters that are both close to the text, one would have taken the other
  (`Overview.Apart`).
-/

namespace LogAnomaly

open LawfulStore

namespace Overview

variable {ι κ : Type} [DecidableEq ι] [DecidableEq κ] {crew : Crew ι κ} {v v' : Overview ι κ}
  {k : κ}

/-! ## The order of calls and answers -/

/-- No call has begun after more answers than there are. -/
structure Stamped (v : Overview ι κ) : Prop where
  phases : ∀ i call, (v.writers i).phase.call? = some call → call.since ≤ v.answers.length
  answers : ∀ a ∈ v.answers, a.call.since ≤ v.answers.length

omit [DecidableEq κ] in
/-- A step of one writer, whose call has begun just now or before. -/
theorem Stamped.of_turn (h : Stamped v) {i : ι} {reply : Reply}
    (hwriters : ∀ j, j ≠ i → v'.writers j = v.writers j)
    (hanswers : v'.answers = v.answers ++ reply.answers i)
    (hcall : ∀ call, (v'.writers i).phase.call? = some call → call.since ≤ v.answers.length)
    (hreply : ∀ call result, reply = some (call, result) → call.since ≤ v.answers.length) :
    Stamped v' := by
  have hlen : v.answers.length ≤ v'.answers.length := by
    rw [hanswers, List.length_append]
    omega
  refine ⟨fun j call hj => Nat.le_trans ?_ hlen, fun a ha => Nat.le_trans ?_ hlen⟩
  · by_cases hji : j = i
    · subst hji
      exact hcall call hj
    · rw [hwriters j hji] at hj
      exact h.phases j call hj
  · rw [hanswers] at ha
    rcases List.mem_append.1 ha with ha | ha
    · exact h.answers a ha
    · exact hreply a.call a.result (Reply.mem_answers.1 ha).2

theorem Step.stamped (hstep : Step crew v v') (h : Stamped v) : Stamped v' := by
  cases hstep with
  | @shared i l w stored reply hi ht =>
    refine h.of_turn (i := i) (fun j hji => turned_writers_of_ne hji) rfl ?_ ?_
    · intro call hcall
      rw [turned_writers] at hcall
      rcases ht.call_cases hcall with hsince | hold
      · exact Nat.le_of_eq hsince
      · exact h.phases i call hold
    · rintro call result rfl
      exact h.phases i call ht.reply_call
  | @alone i w reply hi ht =>
    refine h.of_turn (i := i) (fun j hji => turnedAlone_writers_of_ne hji) rfl ?_ ?_
    · intro call hcall
      rw [turnedAlone_writers, ht.phase_eq] at hcall
      cases hcall
    · rintro call result rfl
      exact Nat.le_of_eq ht.reply_eq.1

theorem Reachable.stamped (h : Reachable crew v) : Stamped v := by
  induction h with
  | begin =>
    refine ⟨fun i call hcall => ?_, fun a ha => ?_⟩
    · cases hcall
    · cases ha
  | step _ hstep ih => exact hstep.stamped ih

/-! ## Texts that have been answered -/

/-- A writer of the store has answered a call with the same text. -/
def Answered (crew : Crew ι κ) (k : κ) (answers : List (Answer ι)) (call : Call) : Prop :=
  ∃ a ∈ answers, crew.store a.writer = some k ∧ a.call.component = call.component ∧
    a.call.text = call.text ∧ ∃ r, a.result = .ok r

omit [DecidableEq κ] in
/-- A text has not been answered if no stored cluster of its component is close to it. -/
theorem Sound.not_answered (hs : Sound crew v) (hagree : crew.Agrees k) {i : ι}
    (hi : crew.store i = some k) {call : Call}
    (hnone : ∀ x ∈ v.stored k, x.component = call.component →
      ((crew.clusterer i).rules call.component).near x.representative
        (((crew.clusterer i).rules call.component).normalized call.text) = false) :
    ¬ Answered crew k v.answers call := by
  rintro ⟨a, ha, hak, hcomp, htext, r, hr⟩
  obtain ⟨x, hx, -, hxc, hnear, -⟩ := hs.supported a ha k hak r hr
  have hrules := hagree a.writer i hak hi call.component
  rw [hcomp, htext, hrules.near_eq, hrules.normalized_eq] at hnear
  rw [hcomp] at hxc
  rw [hnone x hx hxc] at hnear
  cases hnear

/-- Clusters are made only for texts that have not been answered before. -/
structure Novel (crew : Crew ι κ) (k : κ) (v : Overview ι κ) : Prop where
  placed : ∀ i, crew.store i = some k → ∀ c call o p, v.writers i = ⟨c, .placed call o p⟩ →
    p.assignment.outcome = .created → ¬ Answered crew k (v.answers.take call.since) call
  answered : ∀ b ∈ v.answers, crew.store b.writer = some k → ∀ r, b.result = .ok r →
    r.outcome = .created → ¬ Answered crew k (v.answers.take b.call.since) b.call

omit [DecidableEq κ] in
/-- A step of one writer, which has made a cluster only for a text that had not been answered. -/
theorem Novel.of_turn (h : Novel crew k v) (hstamped : Stamped v) {i : ι} {reply : Reply}
    (hwriters : ∀ j, j ≠ i → v'.writers j = v.writers j)
    (hanswers : v'.answers = v.answers ++ reply.answers i)
    (hplaced : crew.store i = some k → ∀ c call o p, v'.writers i = ⟨c, .placed call o p⟩ →
      p.assignment.outcome = .created →
        call.since ≤ v.answers.length ∧ ¬ Answered crew k (v.answers.take call.since) call)
    (hreply : crew.store i = some k → ∀ call r, reply = some (call, .ok r) →
      r.outcome = .created →
        call.since ≤ v.answers.length ∧ ¬ Answered crew k (v.answers.take call.since) call) :
    Novel crew k v' := by
  refine ⟨fun j hj c call o p hw hcreated => ?_, fun b hb hbk r hr hcreated => ?_⟩
  · by_cases hji : j = i
    · subst hji
      obtain ⟨hle, hnot⟩ := hplaced hj c call o p hw hcreated
      rwa [hanswers, List.take_append_of_le_length hle]
    · rw [hwriters j hji] at hw
      have hle := hstamped.phases j call (by rw [hw]; rfl)
      rw [hanswers, List.take_append_of_le_length hle]
      exact h.placed j hj c call o p hw hcreated
  · rw [hanswers] at hb
    rcases List.mem_append.1 hb with hb | hb
    · rw [hanswers, List.take_append_of_le_length (hstamped.answers b hb)]
      exact h.answered b hb hbk r hr hcreated
    · obtain ⟨rfl, hsome⟩ := Reply.mem_answers.1 hb
      rw [hr] at hsome
      obtain ⟨hle, hnot⟩ := hreply hbk b.call r hsome hcreated
      rwa [hanswers, List.take_append_of_le_length hle]

theorem Step.novel (hstep : Step crew v v') (hs : Sound crew v) (hstamped : Stamped v)
    (hagree : crew.Agrees k) (h : Novel crew k v) : Novel crew k v' := by
  cases hstep with
  | @alone i w reply hi ht =>
    refine h.of_turn hstamped (i := i) (fun j hji => turnedAlone_writers_of_ne hji) rfl ?_ ?_
    · intro hik
      rw [hi] at hik
      cases hik
    · intro hik
      rw [hi] at hik
      cases hik
  | @shared i l w stored reply hi ht =>
    refine h.of_turn hstamped (i := i) (fun j hji => turned_writers_of_ne hji) rfl ?_ ?_
    · intro hik c call o p hw hcreated
      obtain rfl : l = k := Option.some.inj (hi.symm.trans hik)
      rw [turned_writers] at hw
      rw [hw] at ht
      rcases ht.placed_cases with hmatched | ⟨c', hold, hnone⟩
      · rw [hmatched] at hcreated
        cases hcreated
      · -- the search of the transaction has found nothing among all stored clusters
        have hsound := hs.shared i l hi
        rw [hold] at hsound
        have hnot : ¬ Answered crew l v.answers call := by
          refine hs.not_answered hagree hi fun x hx hxc => ?_
          have hnear := hsound.none_near (hs.ascending l) hnone hx hxc
          rwa [hsound.phase.1] at hnear
        refine ⟨hstamped.phases i call (by rw [hold]; rfl), ?_⟩
        rintro ⟨a, ha, hans⟩
        exact hnot ⟨a, List.mem_of_mem_take ha, hans⟩
    · rintro hik call r rfl hcreated
      obtain ⟨c, o, p, hold, rfl, -⟩ := ht.of_ok
      exact ⟨hstamped.phases i call ht.reply_call, h.placed i hik c call o p hold hcreated⟩

theorem Reachable.novel (h : Reachable crew v) (hagree : crew.Agrees k) : Novel crew k v := by
  induction h with
  | begin =>
    refine ⟨fun i _ c call o p hw _ => ?_, fun b hb => ?_⟩
    · cases hw
    · cases hb
  | step hv hstep ih => exact hstep.novel hv.sound hv.stamped hagree ih

end Overview

namespace Fleet

variable {ι κ : Type} {σ : κ → Type} [DecidableEq ι] [DecidableEq κ] [∀ k, ClusterStore (σ k)]
  [∀ k, LawfulStore (σ k)] {crew : Crew ι κ} {f : Fleet ι σ} {k : κ}

/-- Once a call of any like writer of a store has been answered, every later call with the same
text that is answered is given a cluster that was there; and if the first one has made a cluster
and the tolerance is symmetric, then that one. -/
theorem later_answer_matched (h : f.Reachable crew) (hagree : crew.Agrees k) {a b : Answer ι}
    (hb : b ∈ f.answers) (ha : a ∈ f.answers.take b.call.since)
    (hak : crew.store a.writer = some k) (hbk : crew.store b.writer = some k)
    (hcomp : a.call.component = b.call.component) (htext : a.call.text = b.call.text)
    {r s : Assignment} (hr : a.result = .ok r) (hs : b.result = .ok s) :
    s.outcome = .matched ∧
      ((crew.clusterer a.writer).tolerance.Symmetric → r.outcome = .created →
        s = ⟨r.clusterId, .matched⟩) := by
  obtain ⟨v, hv, hshows⟩ := Overview.shown_of_reachable h
  rw [hshows.answers_eq] at hb ha
  have hsound := hv.sound
  have hmatched : s.outcome = .matched := by
    cases hout : s.outcome with
    | matched => rfl
    | created =>
      exact absurd ⟨a, ha, hak, hcomp, htext, r, hr⟩
        ((hv.novel hagree).answered b hb hbk s hs hout)
  refine ⟨hmatched, fun hsymm hcreated => ?_⟩
  obtain ⟨x, hx, hxid, hxc, -, hxrep⟩ :=
    hsound.supported a (List.mem_of_mem_take ha) k hak r hr
  obtain ⟨y, hy, hyid, hyc, hynear, -⟩ := hsound.supported b hb k hbk s hs
  have hrules := hagree b.writer a.writer hbk hak a.call.component
  have hxyc : x.component = y.component := hxc.trans (hcomp.trans hyc.symm)
  rw [← hcomp, ← htext, hrules.near_eq, hrules.normalized_eq, ← hxrep hcreated, ← hxc] at hynear
  have happart := hv.apart hagree a.writer hak
  -- both clusters are close to the text of the first one, so neither is the later one
  have hid : y.id = x.id := by
    rcases Nat.lt_trichotomy y.id x.id with hlt | heq | hlt
    · have := happart y hy x hx hxyc.symm hlt
      rw [← hxyc, hynear] at this
      cases this
    · exact heq
    · have := happart x hx y hy hxyc hlt
      rw [ClusterRules.near_comm hsymm, hynear] at this
      cases this
  obtain ⟨id, outcome⟩ := s
  replace hmatched : outcome = .matched := hmatched
  replace hyid : y.id = id := hyid
  rw [hmatched, ← hyid, hid, hxid]

theorem later_answer_matched_race :
    ∃ a b : Answer Bool, ∃ r s : Assignment,
      b ∈ Race.fleet.answers ∧ a ∈ Race.fleet.answers.take b.call.since ∧
      a.call.text = b.call.text ∧ a.result = .ok r ∧ b.result = .ok s ∧
      (Race.crew.clusterer a.writer).tolerance.Symmetric ∧ r.outcome = .created ∧
      s.outcome = .matched ∧ s = ⟨r.clusterId, .matched⟩ := by
  have hb : Race.latecomer ∈ Race.fleet.answers := by
    rw [Race.fleet_answers]
    decide
  have ha : Race.winner ∈ Race.fleet.answers.take Race.latecomer.call.since := by
    rw [Race.fleet_answers]
    decide
  have hsymm : (Race.crew.clusterer Race.winner.writer).tolerance.Symmetric := fun _ _ => rfl
  have h := later_answer_matched Race.fleet_reachable Race.crew_agrees hb ha rfl rfl rfl rfl
    rfl rfl
  exact ⟨_, _, _, _, hb, ha, rfl, rfl, rfl, hsymm, rfl, h.1, h.2 hsymm rfl⟩

end Fleet

end LogAnomaly
