import LogAnomaly.Proofs.Writers.Overview

/-!
# Stored clusters are apart

Writers that prepare and compare texts alike never store two clusters where one would have done:
no stored cluster takes the representative of a later one (`Overview.Apart`). A writer searches
before it has the lock, and afterwards only among the clusters that it did not know; that is enough
since each model knows all stored clusters up to the id that it has caught up with
(`stored_apart_and_known`).
-/

namespace LogAnomaly

open LawfulStore

namespace Overview

variable {ι κ : Type} [DecidableEq ι] [DecidableEq κ] {crew : Crew ι κ} {v v' : Overview ι κ}
  {k : κ}

/-- No stored cluster takes the representative of a later one, whichever writer compares them. -/
def Apart (crew : Crew ι κ) (k : κ) (stored : List TextCluster) : Prop :=
  ∀ i, crew.store i = some k → ∀ x ∈ stored, ∀ y ∈ stored, x.component = y.component →
    x.id < y.id →
    ((crew.clusterer i).rules x.component).near x.representative y.representative = false

omit [DecidableEq ι] [DecidableEq κ] in
/-- Days do not matter. -/
theorem Apart.of_map_identity {stored stored' : List TextCluster} (h : Apart crew k stored)
    (hmap : stored'.map TextCluster.identity = stored.map TextCluster.identity) :
    Apart crew k stored' := by
  intro i hi x' hx' y' hy' hc hlt
  obtain ⟨x, hx, hxx⟩ := exists_of_map_identity hmap hx'
  obtain ⟨y, hy, hyy⟩ := exists_of_map_identity hmap hy'
  obtain ⟨hxid, hxc, hxrep⟩ := TextCluster.identity_eq_iff.1 hxx
  obtain ⟨hyid, hyc, hyrep⟩ := TextCluster.identity_eq_iff.1 hyy
  rw [← hxid, ← hyid] at hlt
  rw [← hxc, ← hyc] at hc
  rw [← hxc, ← hxrep, ← hyrep]
  exact h i hi x hx y hy hc hlt

omit [DecidableEq ι] [DecidableEq κ] in
/-- A cluster may be added if no stored one of its component takes its representative. -/
theorem Apart.concat {stored : List TextCluster} (h : Apart crew k stored)
    (component text : String) (day : Day)
    (hnone : ∀ i, crew.store i = some k → ∀ x ∈ stored, x.component = component →
      ((crew.clusterer i).rules component).near x.representative text = false) :
    Apart crew k (stored ++ [newCluster (greatestId stored) component text day]) := by
  intro i hi x hx y hy hc hlt
  rcases List.mem_append.1 hy with hyold | hynew
  · rcases List.mem_append.1 hx with hxold | hxnew
    · exact h i hi x hxold y hyold hc hlt
    · -- the new cluster has the greatest id
      obtain rfl := List.mem_singleton.1 hxnew
      have := id_lt_greatestId hyold
      replace hlt : idRank (greatestId stored) < y.id := hlt
      omega
  · obtain rfl := List.mem_singleton.1 hynew
    rcases List.mem_append.1 hx with hxold | hxnew
    · replace hc : x.component = component := hc
      rw [hc]
      exact hnone i hi x hxold hc
    · obtain rfl := List.mem_singleton.1 hxnew
      exact absurd hlt (Nat.lt_irrefl _)

theorem Step.apart (hstep : Step crew v v') (hs : Sound crew v) (hagree : crew.Agrees k)
    (h : Apart crew k (v.stored k)) : Apart crew k (v'.stored k) := by
  cases hstep with
  | alone => exact h
  | @shared i l w stored reply hi ht =>
    by_cases hl : k = l
    · subst hl
      rw [turned_stored]
      rcases ht.stored_cases with hmap | ⟨c, call, o, hw, hnone, rfl⟩
      · exact h.of_map_identity hmap
      · refine h.concat _ _ _ fun j hj x hx hc => ?_
        have hsound := hs.shared i k hi
        rw [hw] at hsound
        have hnear := hsound.none_near (hs.ascending k) hnone hx hc
        rwa [(hagree i j hi hj call.component).near_eq] at hnear
    · rwa [turned_stored_of_ne hl]

theorem Reachable.apart (h : Reachable crew v) (hagree : crew.Agrees k) :
    Apart crew k (v.stored k) := by
  induction h with
  | begin =>
    intro i hi x hx
    simp [Overview.begin] at hx
  | step hv hstep ih => exact hstep.apart hv.sound hagree ih

end Overview

namespace Fleet

variable {ι κ : Type} {σ : κ → Type} [DecidableEq ι] [DecidableEq κ] [∀ k, ClusterStore (σ k)]
  [∀ k, LawfulStore (σ k)] {crew : Crew ι κ} {f : Fleet ι σ} {k : κ}

/-- However the steps of like writers of a store are interleaved, the ids grow with the stored
clusters, no stored cluster takes the representative of a later one of its component, and no model
misses a stored cluster of its component up to the id that it has caught up with. -/
theorem stored_apart_and_known (h : f.Reachable crew) (hagree : crew.Agrees k) :
    ∃ stored, Holds stored (f.stores k) ∧ IdsAscending stored ∧
      (∀ x ∈ stored, ∀ y ∈ stored, x.component = y.component → x.id < y.id →
        ∀ i, crew.store i = some k →
          ((crew.clusterer i).rules x.component).near x.representative y.representative = false) ∧
      ∀ i, crew.store i = some k → ∀ m ∈ (f.writers i).clusterer.models,
        ∀ x ∈ stored, x.component = m.component →
          ∀ id, m.knownUpTo = some id → x.id ≤ id →
            x.id ∈ m.ids ∧ ∃ c ∈ m.clusters, c.identity = x.identity := by
  obtain ⟨v, hv, hs⟩ := Overview.shown_of_reachable h
  have hsound := hv.sound
  refine ⟨v.stored k, hs.holds k, hsound.ascending k, ?_, ?_⟩
  · intro x hx y hy hc hlt i hi
    exact hv.apart hagree i hi x hx y hy hc hlt
  · intro i hi m hm x hx hc id hid hle
    rw [hs.writers_eq] at hm
    have hfollows := (hsound.shared i k hi).follows.models_follow m hm
    have hlt : x.id < idRank m.knownUpTo := by
      rw [hid, idRank_some]
      omega
    have hmem := hfollows.known x hx hc hlt
    refine ⟨hmem, ?_⟩
    obtain ⟨c, hcm, hcid⟩ := (hfollows.mem_ids x.id).1 hmem
    obtain ⟨y, hy, hyc⟩ := hfollows.backed c hcm
    have hyx : y = x := (hsound.ascending k).eq_of_id hy hx
      ((TextCluster.id_eq_of_identity hyc).trans hcid)
    exact ⟨c, hcm, by rw [← hyx, hyc]⟩

theorem stored_apart_and_known_race :
    (Race.fleet.stores ()).clusters.map (·.id) = [0, 1] ∧
      ∃ stored, Holds stored (Race.fleet.stores ()) ∧ IdsAscending stored ∧
        (∀ x ∈ stored, ∀ y ∈ stored, x.component = y.component → x.id < y.id →
          ∀ i, Race.crew.store i = some () →
            ((Race.crew.clusterer i).rules x.component).near
              x.representative y.representative = false) ∧
        ∀ i, Race.crew.store i = some () → ∀ m ∈ (Race.fleet.writers i).clusterer.models,
          ∀ x ∈ stored, x.component = m.component →
            ∀ id, m.knownUpTo = some id → x.id ≤ id →
              x.id ∈ m.ids ∧ ∃ c ∈ m.clusters, c.identity = x.identity :=
  ⟨by decide +kernel, stored_apart_and_known Race.fleet_reachable Race.crew_agrees⟩

end Fleet

end LogAnomaly
