import LogAnomaly.Proofs.Writers.Overview

/-!
# Ids

Ids come from the counter of a clusterer, from its store and with the clusters of other writers,
and they are kept in the clusters, in the list of ids of each model and in the counter. In every
fleet these agree (`ids_agree`), whether writers have stores or not and however the stores fail.
`Outage` is a run in which one does.
-/

namespace LogAnomaly

open LawfulStore

namespace Fleet

variable {ι κ : Type} {σ : κ → Type} [DecidableEq ι] [DecidableEq κ] [∀ k, ClusterStore (σ k)]
  [∀ k, LawfulStore (σ k)] {crew : Crew ι κ} {f : Fleet ι σ}

/-- A clusterer holds no id twice, its models list just the ids of their clusters, all of their own
component, and its counter tells the greatest id of them all; without a store, as long as the counter
has an id for every answer and one more, so that it does not start over. The clusters are those of
the store, if there is one. Nothing ever fails because of an id or a place. -/
theorem ids_agree (h : f.Reachable crew) (i : ι) :
    ((crew.store i = none →
        (crew.clusterer i).counter.HasRoom (answerCount i f.answers + 1)) →
      ((f.writers i).clusterer.held.map (·.id)).Nodup ∧
        (∀ m ∈ (f.writers i).clusterer.models,
          (∀ id, id ∈ m.ids ↔ ∃ c ∈ m.clusters, c.id = id) ∧
            ∀ c ∈ m.clusters, c.component = m.component) ∧
        (f.writers i).clusterer.greatestId = greatestId (f.writers i).clusterer.held) ∧
      (∀ k, crew.store i = some k → ∃ stored, Holds stored (f.stores k) ∧
        ∀ c ∈ (f.writers i).clusterer.held, ∃ x ∈ stored,
          x.id = c.id ∧ x.component = c.component ∧ x.representative = c.representative) ∧
      (∀ a ∈ f.answers, ∀ component n, a.result ≠ .error (.knownId component n) ∧
        a.result ≠ .error (.strayPlace component n)) ∧
      ∀ k component n,
        (f.writers i).clusterer.load (f.stores k) ≠ .error (.knownId component n) ∧
          (f.writers i).clusterer.load (f.stores k) ≠ .error (.strayPlace component n) := by
  obtain ⟨v, hv, hs⟩ := Overview.shown_of_reachable h
  have hsound := hv.sound
  refine ⟨fun hroom => ?_, fun k hi => ?_, fun a ha component n => ?_, fun k component n => ?_⟩
  · -- a writer without a store is in step with the clusters that it has made itself
    have hlist : ∃ own, IdsAscending own ∧ (f.writers i).clusterer.Follows own := by
      rw [hs.writers_eq]
      cases hi : crew.store i with
      | none =>
        rw [hs.answers_eq] at hroom
        obtain ⟨own, hown, hfollows, -⟩ := (hsound.alone i hi (hroom hi)).follows
        exact ⟨own, hown, hfollows⟩
      | some k => exact ⟨v.stored k, hsound.ascending k, (hsound.shared i k hi).follows⟩
    obtain ⟨own, hown, hfollows⟩ := hlist
    refine ⟨hfollows.nodup_held hown, fun m hm => ?_, hfollows.greatestId_eq⟩
    exact ⟨(hfollows.models_follow m hm).mem_ids, (hfollows.models_follow m hm).component_eq⟩
  · refine ⟨v.stored k, hs.holds k, fun c hc => ?_⟩
    rw [hs.writers_eq] at hc
    obtain ⟨x, hx, hxc⟩ := (hsound.shared i k hi).follows.held_backed hc
    exact ⟨x, hx, TextCluster.identity_eq_iff.1 hxc⟩
  · -- calls fail only because a store does
    rw [hs.answers_eq] at ha
    have hstore : ∀ e, a.result = .error e → ∃ component operation source,
        e = .store component operation source := by
      intro e he
      obtain ⟨component, operation, source, heq, -⟩ := hv.outage a ha e he
      exact ⟨component, operation, source, heq⟩
    refine ⟨fun he => ?_, fun he => ?_⟩
    · obtain ⟨_, _, _, ⟨⟩⟩ := hstore _ he
    · obtain ⟨_, _, _, ⟨⟩⟩ := hstore _ he
  · rw [Clusterer.load]
    split <;> exact ⟨by rintro ⟨⟩, by rintro ⟨⟩⟩

end Fleet

/-! ## A run with a failing store -/

namespace Outage

/-- One writer has a store that records no days, the other one has none. -/
def crew : Crew Bool Unit where
  store i := if i then some () else none
  clusterer _ := Race.crew.clusterer true
  models_eq _ := rfl
  next_eq _ := rfl

def actions : List (Action Bool) :=
  [.call true "kernel" "up" Race.firstDay, .transact true, .record true,
    .call false "kernel" "up" Race.firstDay,
    .call true "kernel" "up" Race.secondDay, .record true,
    .call true "network" "up" Race.secondDay, .transact true, .record true]

def fleet : Fleet Bool fun _ : Unit => UnreliableStore :=
  (Fleet.begin crew fun _ => { failing := [.touch] }).run crew actions

theorem fleet_reachable : fleet.Reachable crew := by
  refine Fleet.Reachable.run (.begin fun _ => ?_) actions
  exact ⟨rfl, rfl⟩

end Outage

theorem Fleet.ids_agree_outage :
    Outage.fleet.answers.map (·.result) =
        [.ok ⟨0, .created⟩, .ok ⟨0, .created⟩, .error (.store "kernel" .touch .poisoned),
          .ok ⟨1, .created⟩] ∧
      (Outage.fleet.writers true).clusterer.greatestId = some 1 ∧
      (Outage.fleet.writers false).clusterer.greatestId = some 0 ∧
      (∀ i, (Outage.crew.clusterer i).counter = .inWords {} ∧
        (Outage.crew.clusterer i).counter.HasRoom (answerCount i Outage.fleet.answers + 1)) ∧
      (∀ i, ((Outage.fleet.writers i).clusterer.held.map (·.id)).Nodup ∧
        (∀ m ∈ (Outage.fleet.writers i).clusterer.models,
          (∀ id, id ∈ m.ids ↔ ∃ c ∈ m.clusters, c.id = id) ∧
            ∀ c ∈ m.clusters, c.component = m.component) ∧
        (Outage.fleet.writers i).clusterer.greatestId =
          greatestId (Outage.fleet.writers i).clusterer.held) ∧
      (∃ stored, Holds stored (Outage.fleet.stores ()) ∧
        ∀ c ∈ (Outage.fleet.writers true).clusterer.held, ∃ x ∈ stored,
          x.id = c.id ∧ x.component = c.component ∧ x.representative = c.representative) ∧
      ∀ a ∈ Outage.fleet.answers, ∀ component n, a.result ≠ .error (.knownId component n) ∧
        a.result ≠ .error (.strayPlace component n) := by
  have hroom : ∀ i, (Outage.crew.clusterer i).counter.HasRoom
      (answerCount i Outage.fleet.answers + 1) := fun i limit hlimit => by
    cases i <;> exact Option.some.inj hlimit ▸ by decide +kernel
  have hagree := fun i => ids_agree Outage.fleet_reachable i
  obtain ⟨-, hstored, herrors, -⟩ := hagree true
  exact ⟨by decide +kernel, by decide +kernel, by decide +kernel, fun i => ⟨rfl, hroom i⟩,
    fun i => (hagree i).1 fun _ => hroom i, hstored () rfl, herrors⟩

end LogAnomaly
