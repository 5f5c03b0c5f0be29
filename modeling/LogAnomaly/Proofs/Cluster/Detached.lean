import LogAnomaly.Proofs.Cluster.Clusterer
import LogAnomaly.Proofs.Cluster.Counter

/-!
# Detached clusterers

A clusterer as if it had no store: `detached` forgets how far each model knows the store, which is
the only thing that a clusterer without one does not have.

* `Clusterer.counted_detached`, `Clusterer.update_detached`: models are found and replaced alike;
* `CountedModel.add_of_match`: a search has the same result;
* `CountedModel.add_of_none`: a cluster of its own is what the model would take in from a store that
  gives the same id;
* `Clusterer.held_perm`, `Clusterer.held_update_perm`: what a step of one model leaves as it is.
-/

namespace LogAnomaly

/-! ## Models -/

/-- The model as if there were no store. -/
def ComponentModel.detached (m : ComponentModel) : ComponentModel := { m with knownUpTo := none }

@[simp] theorem ComponentModel.detached_component (m : ComponentModel) :
    m.detached.component = m.component := rfl

theorem ComponentModel.matchAfter?_detached (m : ComponentModel) (start : Nat) (o : Observation) :
    m.detached.matchAfter? start o =
      (m.matchAfter? start o).map fun (p, m) => (p, m.detached) := by
  simp only [matchAfter?, Option.map_map]
  rfl

namespace CountedModel

/-- The model as if there were no store, with its counter. -/
def detached (w : CountedModel) : CountedModel := ⟨w.model.detached, w.counter⟩

variable {w : CountedModel} {o : Observation}

theorem add_of_match {text : String} {time : Instant} {p : Placement} {m : ComponentModel}
    (h : w.model.matchAfter? 0 (w.model.rules.observe text time) = some (p, m)) :
    w.detached.add text time = (p.assignment, detached { w with model := m }) := by
  have hd : w.detached.model.matchAfter? 0 (w.model.rules.observe text time) =
      some (p, m.detached) := by
    rw [detached, ComponentModel.matchAfter?_detached, h]
    rfl
  refine add_eq_of_place ?_
  rw [place_eq, show w.detached.model.rules = w.model.rules from rfl, hd]
  rfl

/-- A counter that does not start over gives the id that it reserves for a cluster of the store. -/
theorem create_detached {n : Nat} (hlasts : w.counter.Lasts (n + 1)) (o : Observation) :
    w.detached.create o =
      (⟨⟨w.counter.next, .created⟩, false⟩, (w.adopt w.counter.next o).detached) := by
  rw [create, show w.detached.counter = w.counter from rfl, IdCounter.giveId_of_lasts hlasts]
  rfl

theorem add_of_none {text : String} {time : Instant} {n : Nat}
    (hlasts : w.counter.Lasts (n + 1))
    (h : w.model.matchAfter? 0 (w.model.rules.observe text time) = none) :
    w.detached.add text time =
      (⟨w.counter.next, .created⟩,
        (w.adopt w.counter.next (w.model.rules.observe text time)).detached) := by
  have hd : w.detached.model.matchAfter? 0 (w.model.rules.observe text time) = none := by
    rw [detached, ComponentModel.matchAfter?_detached, h]
    rfl
  refine add_eq_of_place (p := ⟨⟨w.counter.next, .created⟩, false⟩) ?_
  rw [place_eq, show w.detached.model.rules = w.model.rules from rfl, hd, create_detached hlasts]

/-- How far the store is known does not count for a model without one. -/
theorem adopt_catchUpTo_detached (id : Nat) (o : Observation) (known : Option Nat)
    (w : CountedModel) :
    (CountedModel.adopt id o ⟨w.model.catchUpTo known, w.counter⟩).detached =
      (w.adopt id o).detached := rfl

end CountedModel

/-! ## Clusterers -/

namespace Clusterer

/-- The clusterer as if there were no store. -/
def detached (c : Clusterer) : Clusterer := { c with models := c.models.map (·.detached) }

theorem model_detached (component : String) (c : Clusterer) :
    c.detached.model component = (c.model component).detached := by
  have hfind : c.detached.model? component = (c.model? component).map (·.detached) := by
    rw [model?, model?, detached, List.find?_map]
    rfl
  rw [model, model, hfind]
  cases c.model? component <;> rfl

@[simp] theorem counted_model (component : String) (c : Clusterer) :
    (c.counted component).model = c.model component := rfl

theorem counted_detached (component : String) (c : Clusterer) :
    c.detached.counted component = (c.counted component).detached := by
  rw [counted, model_detached]
  rfl

theorem update_detached (c : Clusterer) (w : CountedModel) :
    (c.update w).detached = c.detached.update w.detached := by
  have hreplace : ∀ l : List ComponentModel,
      (replaceModel w.model l).map (·.detached) =
        replaceModel w.model.detached (l.map (·.detached)) := by
    intro l
    induction l with
    | nil => rfl
    | cons old l ih =>
      rw [replaceModel, List.map_cons, replaceModel, ComponentModel.detached_component,
        ComponentModel.detached_component]
      split
      · rfl
      · rw [List.map_cons, ih]
  rw [update, update, detached, detached]
  simp only [hreplace]
  rfl

theorem clusters_detached (component : String) (c : Clusterer) :
    c.detached.clusters component = c.clusters component := by
  rw [clusters, clusters, model?, model?, detached, List.find?_map, Option.map_map]
  rfl

theorem detached_of_models (c : Clusterer) (h : c.models = []) : c.detached = c := by
  rw [detached, h]
  cases c
  cases h
  rfl

/-! ## What a step of one model leaves as it is -/

/-- The clusters of all other components. -/
def heldElsewhere (component : String) (c : Clusterer) : List TextCluster :=
  (c.models.eraseP (·.component == component)).flatMap (·.clusters)

theorem held_perm (component : String) (c : Clusterer) :
    c.held.Perm ((c.model component).clusters ++ c.heldElsewhere component) := by
  rw [held, model, model?, heldElsewhere]
  induction c.models with
  | nil => exact List.Perm.refl _
  | cons m l ih =>
    cases hm : m.component == component with
    | true => simp [hm]
    | false =>
      simp only [List.flatMap_cons, List.find?_cons, List.eraseP_cons, hm, cond_false]
      exact (ih.append_left _).trans (List.perm_append_comm_assoc ..)

theorem held_update_perm (c : Clusterer) (w : CountedModel) :
    (c.update w).held.Perm (w.model.clusters ++ c.heldElsewhere w.model.component) := by
  show ((replaceModel w.model c.models).flatMap (·.clusters)).Perm _
  rw [heldElsewhere]
  induction c.models with
  | nil => simp [replaceModel]
  | cons m l ih =>
    rw [replaceModel]
    cases hm : m.component == w.model.component with
    | true => simp [hm]
    | false =>
      simp only [Bool.false_eq_true, if_false, List.flatMap_cons, List.eraseP_cons, hm, cond_false]
      exact (ih.append_left _).trans (List.perm_append_comm_assoc ..)

end Clusterer

end LogAnomaly
