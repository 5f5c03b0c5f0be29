import LogAnomaly.Proofs.Cluster.Recency

/-!
# Two texts in either order

* `ComponentModel.matchAfter?_front`: a text that the cluster in front takes joins that one;
* `CountedModel.visit_front`: after an answer the cluster of the text is in front and takes it;
* `CountedModel.visit_again`: so a text that comes again at once gets the cluster that it has just
  got, in whatever state the model was;
* `CountedModel.length_entries_visit`: a text makes a cluster if none of those that are there
  takes it;
* `CountedModel.pair_in_either_order`: whether two texts share a cluster does not depend on which
  of them comes first.
-/

namespace LogAnomaly

namespace ComponentModel

/-- A text that the cluster in front takes joins that one. -/
theorem matchAfter?_front {m : ComponentModel} {e : Entry} {rest : List Entry} {o : Observation}
    (hentries : m.entries = e :: rest)
    (hacc : m.rules.accepts e.fingerprint o.fingerprint = true) :
    ∃ p m', m.matchAfter? 0 o = some (p, m') ∧ p.assignment = ⟨e.cluster.id, .matched⟩ := by
  refine ⟨⟨⟨e.cluster.id, .matched⟩, e.cluster.lastObserved < o.day⟩,
    { m with entries := e.observedOn o.day :: rest }, ?_, rfl⟩
  simp [matchAfter?, hentries, extractFirst, hacc]

end ComponentModel

namespace CountedModel

theorem rules_visit (v : Visit) (w : CountedModel) :
    (w.visit v).2.model.rules = w.model.rules := by
  rcases visit_cases v w with ⟨p, m, hm, heq⟩ | ⟨-, heq⟩ <;> rw [heq]
  · exact (ComponentModel.matchAfter?_kept hm).2.1
  · rfl

/-- After the answer to a text its cluster is in front, and it takes the text. -/
theorem visit_front (v : Visit) (w : CountedModel) :
    ∃ e rest, (w.visit v).2.model.entries = e :: rest ∧ e.cluster.id = (w.visit v).1.clusterId ∧
      ∀ time, w.model.rules.accepts e.fingerprint
        (w.model.rules.observe v.text time).fingerprint = true := by
  rcases visit_cases v w with ⟨p, m, hm, heq⟩ | ⟨hm, heq⟩ <;> rw [heq]
  · obtain ⟨before, e, after, -, hacc, -, rfl, rfl⟩ := ComponentModel.matchAfter?_eq_some hm
    exact ⟨e.observedOn v.time.day, before ++ after, rfl, rfl, fun _ => hacc⟩
  · exact ⟨_, w.model.entries, rfl, rfl, fun _ => Fingerprint.isNear_self ..⟩

/-- A text that comes again at once joins the cluster that it has just got. -/
theorem visit_again (v : Visit) (time : Instant) (elsewhere : Nat) (w : CountedModel) :
    ((w.visit v).2.visit { v with time, elsewhere }).1 = ⟨(w.visit v).1.clusterId, .matched⟩ := by
  obtain ⟨e, rest, hentries, hid, hacc⟩ := visit_front v w
  have haccepts := hacc time
  rw [← rules_visit v w] at haccepts
  obtain ⟨p, m, hm, hp⟩ := ComponentModel.matchAfter?_front
    (o := (w.visit v).2.model.rules.observe v.text time) hentries haccepts
  rcases visit_cases { v with time, elsewhere } (w.visit v).2 with ⟨q, m', hq, heq⟩ | ⟨hq, -⟩
  · obtain ⟨rfl, -⟩ := Prod.mk.inj (Option.some.inj (hm.symm.trans hq))
    rw [heq, hp, hid]
  · exact absurd (hm.symm.trans hq) (Option.some_ne_none _)

/-- A text makes a cluster if none of those that are there takes it. -/
theorem length_entries_visit (v : Visit) (w : CountedModel) :
    (w.visit v).2.model.entries.length =
      if ∃ e ∈ w.model.entries, w.model.rules.accepts e.fingerprint
          (w.model.rules.observe v.text v.time).fingerprint = true
      then w.model.entries.length else w.model.entries.length + 1 := by
  rcases visit_cases v w with ⟨p, m, hm, heq⟩ | ⟨hm, heq⟩ <;> rw [heq]
  · obtain ⟨before, e, after, hentries, hacc, -, -, rfl⟩ := ComponentModel.matchAfter?_eq_some hm
    rw [if_pos ⟨e, by simp [hentries], hacc⟩, hentries]
    simp
    omega
  · have hnone := ComponentModel.matchAfter?_eq_none_iff.1 hm
    rw [if_neg]
    · rfl
    · rintro ⟨e, he, hacc⟩
      rw [hnone e (by simpa using he)] at hacc
      cases hacc

/-- Two texts that come to a fresh model share a cluster if the cluster of the first one takes the
second one. -/
theorem length_clusters_pair (component : String) (rules : ClusterRules) (counter : IdCounter)
    (a b : Visit) :
    let start : CountedModel := ⟨{ component, rules }, counter⟩
    (start.visitAll [a, b]).2.model.clusters.length =
      if rules.near (rules.normalized a.text) (rules.normalized b.text) = true then 1 else 2 := by
  intro start
  have hfirst : (start.visit a).2.model.entries =
      [⟨⟨(counter.after a.elsewhere).next, component, rules.normalized a.text, a.time.day⟩,
        rules.fingerprint (rules.normalized a.text)⟩] := by
    rcases visit_cases a start with ⟨p, m, hm, -⟩ | ⟨-, heq⟩
    · obtain ⟨before, e, after, hentries, -⟩ := ComponentModel.matchAfter?_eq_some hm
      simp [start] at hentries
    · rw [heq]
      rfl
  have hrules : (start.visit a).2.model.rules = rules := rules_visit a start
  have hrun : (start.visitAll [a, b]).2 = ((start.visit a).2.visit b).2 := rfl
  rw [hrun, ComponentModel.clusters, List.length_map, length_entries_visit, hfirst, hrules]
  simp only [List.mem_singleton, exists_eq_left]
  rfl

/-- Whether two texts share a cluster does not depend on which of them comes first: they do if one
is close to the other, and closeness goes both ways. A text that comes again at once joins the
cluster that it has just got. -/
theorem pair_in_either_order (component : String) {rules : ClusterRules}
    (hsymmetric : rules.tolerance.Symmetric) (counter : IdCounter) (a b : Visit) :
    let start : CountedModel := ⟨{ component, rules }, counter⟩
    let forth := (start.visitAll [a, b]).2.model.clusters
    let back := (start.visitAll [b, a]).2.model.clusters
    (forth.length = 1 ↔ back.length = 1) ∧
      (forth.length = 1 ↔
        rules.near (rules.normalized a.text) (rules.normalized b.text) = true) ∧
      (∀ (visits : List Visit) (v : Visit) (time : Instant) (elsewhere : Nat),
        let w := (start.visitAll visits).2
        ((w.visit v).2.visit { v with time, elsewhere }).1 =
          ⟨(w.visit v).1.clusterId, .matched⟩) ∧
      (∀ s t, rules.near s t = rules.near t s) ∧ ∀ s, rules.near s s = true := by
  intro start forth back
  have hforth : forth.length = _ := length_clusters_pair component rules counter a b
  have hback : back.length = _ := length_clusters_pair component rules counter b a
  have hone : ∀ p : Prop, [Decidable p] → ((if p then 1 else 2) = 1 ↔ p) := fun p _ => by
    split <;> simp_all
  rw [hforth, hback, hone, hone]
  exact ⟨by rw [ClusterRules.near_comm hsymmetric], Iff.rfl,
    fun visits v time elsewhere => visit_again v time elsewhere _,
    ClusterRules.near_comm hsymmetric, rules.near_self⟩

/-- Rules for two texts that differ in length. -/
def linkRules : ClusterRules where
  preprocessor := .standard ["stop"] .words
  tolerance m n := (m + n) / 4

theorem linkRules_symmetric : linkRules.tolerance.Symmetric := fun m n => by
  show (m + n) / 4 = (n + m) / 4
  rw [Nat.add_comm]

def linkUp : Visit := ⟨"link 1 is up again", .ofParts (.ofParts 2024 3 1) 43200 0, 0⟩

def linkDown : Visit := ⟨"link 2 is down", .ofParts (.ofParts 2024 3 1) 43200 0, 0⟩

theorem pair_in_either_order_links :
    let start : CountedModel := ⟨{ component := "kernel", rules := linkRules }, {}⟩
    linkRules.tolerance.Symmetric ∧
      (start.visitAll [linkUp, linkDown]).2.model.clusters.length = 1 ∧
      (start.visitAll [linkDown, linkUp]).2.model.clusters.length = 1 := by
  have hclose : linkRules.near (linkRules.normalized linkUp.text)
      (linkRules.normalized linkDown.text) = true := by decide +kernel
  obtain ⟨hsame, hnear, -⟩ :=
    pair_in_either_order "kernel" linkRules_symmetric {} linkUp linkDown
  exact ⟨linkRules_symmetric, hnear.2 hclose, hsame.1 (hnear.2 hclose)⟩

end CountedModel

end LogAnomaly
