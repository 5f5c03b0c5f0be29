import LogAnomaly.Proofs.Ascending
import LogAnomaly.Proofs.Cluster.Linked

/-!
# Independent components

The components of a clusterer share nothing but the counter of ids. So what a clusterer answers to
the lines of one component is, up to the names of ids, what it would answer if there were no others.

* `ComponentModel.renamed`: a model with other ids. A search does not look at ids
  (`matchAfter?_renamed`);
* `CountedModel.Mirrors`: a model that is another one with the ids counted anew, in the order in
  which they were made. A text keeps it (`Mirrors.add`), and so do ids that others draw from the
  counter (`Mirrors.mono`);
* `Clusterer.mirrors_addAll`: any number of lines keep it;
* `Clusterer.components_apart`: the lines of a component among those of others, and for themselves.
-/

namespace LogAnomaly

/-! ## Other ids -/

/-- The cluster with another id. -/
def TextCluster.renamed (rename : Nat → Nat) (c : TextCluster) : TextCluster :=
  { c with id := rename c.id }

def Entry.renamed (rename : Nat → Nat) (e : Entry) : Entry :=
  { e with cluster := e.cluster.renamed rename }

def Assignment.renamed (rename : Nat → Nat) (a : Assignment) : Assignment :=
  { a with clusterId := rename a.clusterId }

def Placement.renamed (rename : Nat → Nat) (p : Placement) : Placement :=
  { p with assignment := p.assignment.renamed rename }

theorem extractFirst_map {α β : Type} (p : β → Bool) (f : α → β) (l : List α) :
    extractFirst p (l.map f) =
      (extractFirst (p ∘ f) l).map fun found => (f found.1, found.2.map f) := by
  induction l with
  | nil => rfl
  | cons a l ih =>
    rw [List.map_cons, extractFirst, extractFirst, ih, Function.comp_apply]
    split
    · rfl
    · rw [Option.map_map, Option.map_map]
      rfl

namespace ComponentModel

/-- The model with other ids. -/
def renamed (rename : Nat → Nat) (m : ComponentModel) : ComponentModel :=
  { m with entries := m.entries.map (·.renamed rename), ids := m.ids.map rename }

theorem clusters_renamed (rename : Nat → Nat) (m : ComponentModel) :
    (m.renamed rename).clusters = m.clusters.map (·.renamed rename) := by
  rw [clusters, clusters, renamed, List.map_map, List.map_map]
  rfl

/-- Only the names of ids that the model has count. -/
theorem renamed_congr {f g : Nat → Nat} {m : ComponentModel}
    (hentries : ∀ e ∈ m.entries, f e.cluster.id = g e.cluster.id)
    (hids : ∀ id ∈ m.ids, f id = g id) : m.renamed f = m.renamed g := by
  have heach : m.entries.map (·.renamed f) = m.entries.map (·.renamed g) :=
    List.map_congr_left fun e he => by
      rw [Entry.renamed, Entry.renamed, TextCluster.renamed, TextCluster.renamed, hentries e he]
  rw [renamed, renamed, heach, List.map_congr_left hids]

/-- A search does not look at ids. -/
theorem matchAfter?_renamed (rename : Nat → Nat) (m : ComponentModel) (start : Nat)
    (o : Observation) :
    (m.renamed rename).matchAfter? start o =
      (m.matchAfter? start o).map fun found =>
        (found.1.renamed rename, found.2.renamed rename) := by
  rw [matchAfter?, matchAfter?, renamed, ← List.map_drop, extractFirst_map, Option.map_map,
    Option.map_map]
  refine congrArg (Option.map · _) (funext fun found => ?_)
  simp [renamed, Placement.renamed, Assignment.renamed, Entry.renamed, Entry.observedOn,
    TextCluster.renamed]

end ComponentModel

/-! ## Counting anew -/

/-- The ids of the clusters that answers have made. -/
def createdIds (answers : List Assignment) : List Nat :=
  (answers.filter (·.outcome = .created)).map (·.clusterId)

theorem createdIds_cons (answer : Assignment) (answers : List Assignment) :
    createdIds (answer :: answers) = createdIds [answer] ++ createdIds answers := by
  rw [createdIds, createdIds, createdIds, ← List.map_append, ← List.filter_append]
  rfl

namespace CountedModel

/-- A model that is another one with the ids counted anew, in the order in which they were made. Both
counters go on for some ids before they start over. -/
structure Mirrors (made : List Nat) (n : Nat) (w v : CountedModel) : Prop where
  ascending : made.Pairwise (· < ·)
  made_lt : ∀ id ∈ made, id < w.counter.next
  entries_made : ∀ e ∈ w.model.entries, e.cluster.id ∈ made
  ids_made : ∀ id ∈ w.model.ids, id ∈ made
  model_eq : v.model = w.model.renamed made.idxOf
  next_eq : v.counter.next = made.length
  lasts : w.counter.Lasts n
  mirror_lasts : v.counter.Lasts n

variable {made : List Nat} {n : Nat} {w v : CountedModel}

theorem Mirrors.of_no_clusters (hentries : w.model.entries = []) (hids : w.model.ids = [])
    (hnext : w.counter.next = 0) (hlasts : w.counter.Lasts n) : Mirrors [] n w w where
  ascending := .nil
  made_lt := by simp
  entries_made := by simp [hentries]
  ids_made := by simp [hids]
  model_eq := by
    rw [ComponentModel.renamed, hentries, hids, List.map_nil, List.map_nil, ← hentries, ← hids]
  next_eq := hnext
  lasts := hlasts
  mirror_lasts := hlasts

/-- Others may draw ids from the counter. -/
theorem Mirrors.mono (h : Mirrors made (n + 1) w v) {counter : IdCounter}
    (hnext : w.counter.next ≤ counter.next) (hlasts : counter.Lasts n) :
    Mirrors made n { w with counter } v :=
  { h with
    made_lt := fun id hid => Nat.lt_of_lt_of_le (h.made_lt id hid) hnext
    lasts := hlasts
    mirror_lasts := h.mirror_lasts.mono (Nat.le_succ n) }

theorem Mirrors.matched (h : Mirrors made n w v) {o : Observation} {p : Placement}
    {m : ComponentModel} (hm : w.model.matchAfter? 0 o = some (p, m)) :
    p.assignment.outcome = .matched ∧ p.assignment.clusterId ∈ made ∧
      Mirrors made n { w with model := m } { v with model := m.renamed made.idxOf } := by
  obtain ⟨before, e, after, hentries, -, -, rfl, rfl⟩ := ComponentModel.matchAfter?_eq_some hm
  refine ⟨rfl, h.entries_made e (by simp [hentries]), { h with
    entries_made := fun d hd => ?_
    model_eq := rfl }⟩
  rcases List.mem_cons.1 hd with rfl | hd
  · exact h.entries_made e (by simp [hentries])
  · refine h.entries_made d ?_
    rw [hentries]
    rcases List.mem_append.1 hd with hd | hd
    · exact List.mem_append_left _ hd
    · exact List.mem_append_right _ (List.mem_cons_of_mem _ hd)

/-- The next id of the one is the next id of the other, counted anew. -/
theorem Mirrors.idxOf_next (h : Mirrors made n w v) :
    (made ++ [w.counter.next]).idxOf w.counter.next = v.counter.next := by
  have hnew : w.counter.next ∉ made := fun hmem => Nat.lt_irrefl _ (h.made_lt _ hmem)
  rw [List.idxOf_append_of_notMem hnew, List.idxOf_cons_self, Nat.add_zero, h.next_eq]

theorem create_counter (h : w.counter.Lasts (n + 1)) (o : Observation) :
    (w.create o).2.counter = w.counter.reserve w.counter.next :=
  congrArg Prod.snd (IdCounter.giveId_of_lasts h)

/-- A new id comes after all that were made, on both sides. -/
theorem Mirrors.create (h : Mirrors made (n + 1) w v) (o : Observation) :
    Mirrors (made ++ [w.counter.next]) n (w.create o).2 (v.create o).2 := by
  have hold : w.model.renamed made.idxOf = w.model.renamed (made ++ [w.counter.next]).idxOf :=
    ComponentModel.renamed_congr
      (fun e he => (List.idxOf_append_of_mem (h.entries_made e he)).symm)
      fun id hid => (List.idxOf_append_of_mem (h.ids_made id hid)).symm
  exact {
    ascending := by
      refine List.pairwise_append.2 ⟨h.ascending, List.pairwise_singleton .., fun a ha b hb => ?_⟩
      rw [List.mem_singleton.1 hb]
      exact h.made_lt a ha
    made_lt := fun id hid => by
      rw [create_counter h.lasts, IdCounter.next_reserve_next]
      rcases List.mem_append.1 hid with hid | hid
      · exact Nat.lt_succ_of_lt (h.made_lt id hid)
      · rw [List.mem_singleton.1 hid]
        exact Nat.lt_succ_self _
    entries_made := fun e he => by
      rcases List.mem_cons.1 he with rfl | he
      · exact List.mem_append_right _ List.mem_cons_self
      · exact List.mem_append_left _ (h.entries_made e he)
    ids_made := fun id hid => by
      rcases List.mem_cons.1 hid with rfl | hid
      · exact List.mem_append_right _ List.mem_cons_self
      · exact List.mem_append_left _ (h.ids_made id hid)
    model_eq := by
      have hmirror : (v.create o).2.model = v.model.putInFront v.counter.next o := rfl
      have hmodel : (w.create o).2.model = w.model.putInFront w.counter.next o := rfl
      rw [hmirror, hmodel, h.model_eq, hold, ← h.idxOf_next]
      rfl
    next_eq := by
      rw [create_counter h.mirror_lasts, IdCounter.next_reserve_next, h.next_eq, List.length_append,
        List.length_singleton]
    lasts := create_counter h.lasts o ▸ h.lasts.reserve
    mirror_lasts := create_counter h.mirror_lasts o ▸ h.mirror_lasts.reserve }

/-- Both models answer a text alike, but for the id. -/
theorem Mirrors.add (h : Mirrors made (n + 1) w v) (text : String) (time : Instant) :
    let answer := (w.add text time).1
    let made' := made ++ createdIds [answer]
    (v.add text time).1 = answer.renamed made'.idxOf ∧ answer.clusterId ∈ made' ∧
      Mirrors made' n (w.add text time).2 (v.add text time).2 := by
  have hrules : v.model.rules = w.model.rules := by
    rw [h.model_eq]
    rfl
  rw [add_eq, add_eq, hrules, h.model_eq, ComponentModel.matchAfter?_renamed]
  cases hm : w.model.matchAfter? 0 (w.model.rules.observe text time) with
  | some found =>
    obtain ⟨p, m⟩ := found
    obtain ⟨houtcome, hid, hmirrors⟩ := h.matched hm
    have hnone : createdIds [p.assignment] = [] := by simp [createdIds, houtcome]
    dsimp only [Option.map_some]
    rw [hnone, List.append_nil]
    exact ⟨rfl, hid, hmirrors.mono (Nat.le_refl _) (hmirrors.lasts.mono (Nat.le_succ n))⟩
  | none =>
    have hone : createdIds [(w.create (w.model.rules.observe text time)).1.assignment] =
        [w.counter.next] := rfl
    dsimp only [Option.map_none]
    rw [hone]
    refine ⟨?_, List.mem_append_right _ List.mem_cons_self, h.create _⟩
    show (⟨v.counter.next, .created⟩ : Assignment) =
      ⟨(made ++ [w.counter.next]).idxOf w.counter.next, .created⟩
    rw [h.idxOf_next]

/-- A text draws at most one id, whichever model it comes to. -/
theorem add_counter (text : String) (time : Instant) (hlasts : w.counter.Lasts (n + 1)) :
    w.counter.next ≤ (w.add text time).2.counter.next ∧
      (w.add text time).2.counter.Lasts n := by
  rw [add_eq]
  cases w.model.matchAfter? 0 (w.model.rules.observe text time) with
  | some => exact ⟨Nat.le_refl _, hlasts.mono (Nat.le_succ n)⟩
  | none =>
    dsimp only
    rw [create_counter hlasts]
    exact ⟨Nat.le_max_left .., hlasts.reserve⟩

theorem add_component (text : String) (time : Instant) (w : CountedModel) :
    (w.add text time).2.model.component = w.model.component := by
  rw [add_eq]
  cases hm : w.model.matchAfter? 0 (w.model.rules.observe text time) with
  | some => exact (ComponentModel.matchAfter?_kept hm).1
  | none => rfl

end CountedModel

/-! ## Lines of one component -/

namespace Clusterer

open CountedModel

variable {component : String} {c d : Clusterer} {made : List Nat}

theorem find?_replaceModel_of_ne {m : ComponentModel} (h : m.component ≠ component)
    (l : List ComponentModel) :
    (replaceModel m l).find? (·.component == component) = l.find? (·.component == component) := by
  induction l with
  | nil => simp [replaceModel, h]
  | cons old l ih =>
    rw [replaceModel]
    split
    · rename_i heq
      rw [beq_iff_eq] at heq
      rw [List.find?_cons_of_neg (by simpa using h),
        List.find?_cons_of_neg (by simpa [heq] using h)]
    · rw [List.find?_cons, List.find?_cons, ih]

theorem model_update_of_ne {w : CountedModel} (h : w.model.component ≠ component)
    (c : Clusterer) : (c.update w).model component = c.model component := by
  rw [model, model, model?, model?, update, find?_replaceModel_of_ne h]
  rfl

theorem clusters_eq (component : String) (c : Clusterer) :
    c.clusters component = (c.model component).clusters := by
  rw [clusters, model]
  cases c.model? component <;> rfl

theorem answer_add (component text : String) (time : Instant) (c : Clusterer) :
    (c.add component text time).1 = ((c.counted component).add text time).1 :=
  rfl

theorem counted_add (component text : String) (time : Instant) (c : Clusterer) :
    (c.add component text time).2.counted component = ((c.counted component).add text time).2 :=
  counted_update c ((add_component ..).trans (model_component ..))

/-- A line of another component changes nothing but the counter. -/
theorem counted_add_of_ne {other : String} (h : other ≠ component) (text : String)
    (time : Instant) (c : Clusterer) :
    (c.add other text time).2.counted component =
      { c.counted component with counter := ((c.counted other).add text time).2.counter } := by
  have hother : ((c.counted other).add text time).2.model.component ≠ component := by
    rw [add_component, counted_model, model_component]
    exact h
  rw [Clusterer.add, counted]
  dsimp only
  rw [model_update_of_ne hother]
  rfl

/-- The answers to the lines of a component. -/
def answersOf (component : String) (lines : List LogLine) (answers : List Assignment) :
    List Assignment :=
  ((lines.zip answers).filter (·.1.component == component)).map (·.2)

theorem answersOf_cons_self (line : LogLine) (lines : List LogLine) (answer : Assignment)
    (answers : List Assignment) :
    answersOf line.component (line :: lines) (answer :: answers) =
      answer :: answersOf line.component lines answers := by
  simp [answersOf]

theorem answersOf_cons_of_ne {line : LogLine} (h : line.component ≠ component)
    (lines : List LogLine) (answer : Assignment) (answers : List Assignment) :
    answersOf component (line :: lines) (answer :: answers) =
      answersOf component lines answers := by
  simp [answersOf, h]

/-- Lines of all components for one clusterer, and those of one component for another one that is in
step with it. -/
theorem mirrors_addAll (lines : List LogLine)
    (h : Mirrors made lines.length (c.counted component) (d.counted component)) :
    let answers := answersOf component lines (c.addAll lines).1
    let made' := made ++ createdIds answers
    let own := d.addAll (lines.filter (·.component == component))
    own.1 = answers.map (·.renamed made'.idxOf) ∧ (∀ answer ∈ answers, answer.clusterId ∈ made') ∧
      Mirrors made' 0 ((c.addAll lines).2.counted component) (own.2.counted component) := by
  induction lines generalizing c d made with
  | nil => simpa [answersOf, addAll, createdIds] using h
  | cons line lines ih =>
    by_cases hline : line.component = component
    · subst hline
      obtain ⟨hanswer, hid, hmirrors⟩ := h.add line.text line.time
      rw [← counted_add, ← counted_add] at hmirrors
      obtain ⟨hanswers, hids, hlast⟩ := ih hmirrors
      have hlines : (line :: lines).filter (·.component == line.component) =
          line :: lines.filter (·.component == line.component) := by
        simp
      dsimp only [addAll]
      rw [hlines, answersOf_cons_self, answer_add, createdIds_cons, ← List.append_assoc]
      refine ⟨?_, ?_, hlast⟩
      · rw [List.map_cons, ← hanswers, Assignment.renamed, List.idxOf_append_of_mem hid]
        exact congrArg (· :: _) hanswer
      · intro answer hmem
        rcases List.mem_cons.1 hmem with rfl | hmem
        · exact List.mem_append_left _ hid
        · exact hids answer hmem
    · have hcounter := add_counter line.text line.time
        (w := c.counted line.component) h.lasts
      have hmirrors := h.mono hcounter.1 hcounter.2
      rw [← counted_add_of_ne hline] at hmirrors
      have hlines : (line :: lines).filter (·.component == component) =
          lines.filter (·.component == component) := by
        simp [hline]
      rw [hlines, addAll, answersOf_cons_of_ne hline]
      exact ih hmirrors

/-- What a clusterer without a store answers to the lines of a component, and the clusters that it
has of it, are those of a clusterer that has only these lines, with the ids of the component counted
anew: the id of its first cluster becomes 0, that of the next one 1, and so on. The counter has an
id for every line and one more, so that it does not start over. -/
theorem components_apart {c : Clusterer} (hmodels : c.models = []) (hnext : c.counter.next = 0)
    (component : String) (lines : List LogLine) (hroom : c.counter.HasRoom (lines.length + 1)) :
    let whole := c.addAll lines
    let own := c.addAll (lines.filter (·.component == component))
    let answers := answersOf component lines whole.1
    let made := createdIds answers
    ∃ rename : Nat → Nat,
      (∀ place id, made[place]? = some id → rename id = place) ∧
      (∀ a ∈ made, ∀ b ∈ made, a < b → rename a < rename b) ∧
      own.1 = answers.map (·.renamed rename) ∧
      (∀ answer ∈ answers, answer.clusterId ∈ made) ∧
      own.2.clusters component = (whole.2.clusters component).map (·.renamed rename) ∧
      ∀ cluster ∈ whole.2.clusters component, cluster.id ∈ made := by
  have hmodel : c.model component = { component, rules := c.rules component } := by
    rw [model, model?, hmodels]
    rfl
  have hstart : Mirrors [] lines.length (c.counted component) (c.counted component) :=
    .of_no_clusters (by rw [counted_model, hmodel]) (by rw [counted_model, hmodel]) hnext
      (hroom.lasts hnext)
  obtain ⟨hanswers, hids, hlast⟩ := mirrors_addAll lines hstart
  rw [List.nil_append] at hanswers hids hlast
  have hclusters := congrArg (·.clusters) hlast.model_eq
  simp only [counted_model, ComponentModel.clusters_renamed] at hclusters
  dsimp only
  refine ⟨_, fun place id hplace => ?_,
    fun a ha b hb => (idxOf_lt_idxOf_iff hlast.ascending ha hb).2,
    hanswers, hids, ?_, fun cluster hmem => ?_⟩
  · obtain ⟨hlt, rfl⟩ := List.getElem?_eq_some_iff.1 hplace
    exact (nodup_of_ascending hlast.ascending).idxOf_getElem place hlt
  · rw [clusters_eq, clusters_eq, hclusters]
  · rw [clusters_eq] at hmem
    obtain ⟨e, he, rfl⟩ := List.mem_map.1 hmem
    exact hlast.entries_made e he

/-- Lines of two components in turn: the second cluster of the one is the third of all. -/
def twoInTurn : List LogLine :=
  let noon : Instant := .ofParts (.ofParts 2024 3 1) 43200 0
  [⟨"kernel", noon, "link up"⟩, ⟨"sshd", noon, "session opened"⟩,
    ⟨"kernel", noon, "out of memory while reading"⟩, ⟨"kernel", noon, "link up"⟩]

theorem components_apart_two :
    let c : Clusterer := ofConfig {}
    (c.models = [] ∧ c.counter = .inWords {} ∧ c.counter.HasRoom (twoInTurn.length + 1)) ∧
      let whole := c.addAll twoInTurn
      let own := c.addAll (twoInTurn.filter (·.component == "kernel"))
      let answers := answersOf "kernel" twoInTurn whole.1
      let made := createdIds answers
      ∃ rename : Nat → Nat,
        (∀ place id, made[place]? = some id → rename id = place) ∧
        (∀ a ∈ made, ∀ b ∈ made, a < b → rename a < rename b) ∧
        own.1 = answers.map (·.renamed rename) ∧
        (∀ answer ∈ answers, answer.clusterId ∈ made) ∧
        own.2.clusters "kernel" = (whole.2.clusters "kernel").map (·.renamed rename) ∧
        ∀ cluster ∈ whole.2.clusters "kernel", cluster.id ∈ made :=
  have hroom : (ofConfig {}).counter.HasRoom (twoInTurn.length + 1) :=
    fun limit hlimit => Option.some.inj hlimit ▸ by decide +kernel
  ⟨⟨rfl, rfl, hroom⟩, components_apart rfl rfl "kernel" twoInTurn hroom⟩

end Clusterer

end LogAnomaly
