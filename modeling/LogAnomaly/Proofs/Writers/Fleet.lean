import LogAnomaly.Cluster.Clusterer
import LogAnomaly.Proofs.Cluster.Component
import LogAnomaly.Proofs.Store.Lawful
import LogAnomaly.Proofs.Time.Parts
import Mathlib.Logic.Function.Basic

/-!
# Writers that share stores

Any number of clusterers, each with a store or without one, and any order of their steps:

* `Crew`: the writers, their stores and the clusterers that they start with;
* `Fleet`: the stores, the writers and the answers that they have given;
* `Fleet.act`: one step of one writer. A call takes up to three: the search among the clusters that
  the writer knows, the transaction, and the recording of the day. A transaction, the recording of
  a day and the reading of a whole store each happen at once;
* `Fleet.Reachable`: what any order of steps leads to;
* `Race`: two writers that search for the same text at once.

A writer may stop for good between two steps, in the middle of a call too: it is then one that is
never chosen again, and another one may take its place. A writer that is not in a call may be
replaced by a fresh one. Between the steps a store may begin or cease to fail.
-/

namespace LogAnomaly

open LawfulStore

/-- A call that has begun. -/
structure Call where
  component : String
  text : String
  time : Instant
  /-- The number of answers that had been given when the call began. -/
  since : Nat
  deriving DecidableEq

/-- How far a writer has come with its call. -/
inductive Phase where
  | idle
  /-- No known cluster is close to the text; the transaction is next. -/
  | missed (call : Call) (o : Observation)
  /-- The text has its cluster; the recording of its day is next. -/
  | placed (call : Call) (o : Observation) (p : Placement)

/-- The call that is in progress. -/
def Phase.call? : Phase → Option Call
  | .idle => none
  | .missed call _ => some call
  | .placed call _ _ => some call

/-- A clusterer at work. -/
structure Writer where
  clusterer : Clusterer
  phase : Phase := .idle

/-- The answer to a call. -/
structure Answer (ι : Type) where
  writer : ι
  call : Call
  result : Except AssignmentError Assignment
  deriving DecidableEq

/-- The number of answers of a writer. -/
def answerCount {ι : Type} [DecidableEq ι] (i : ι) (answers : List (Answer ι)) : Nat :=
  answers.countP (·.writer = i)

/-- The writers: the store of each, if it has one, and the clusterer that it starts with. All begin
with the first id; how many ids there are may differ. -/
structure Crew (ι κ : Type) where
  store : ι → Option κ
  clusterer : ι → Clusterer
  models_eq : ∀ i, (clusterer i).models = []
  next_eq : ∀ i, (clusterer i).counter.next = 0

/-- Texts are prepared and compared in the same way; only the patience may differ. -/
def ClusterRules.Agree (r s : ClusterRules) : Prop :=
  r.preprocessor = s.preprocessor ∧ r.tolerance = s.tolerance ∧
    r.maxTextLength = s.maxTextLength

namespace ClusterRules.Agree

variable {r s : ClusterRules}

theorem near_eq (h : r.Agree s) : r.near = s.near := by
  obtain ⟨hp, ht, -⟩ := h
  funext known text
  rw [near, near, accepts, accepts, fingerprint, fingerprint, fingerprint, fingerprint, hp, ht]

theorem normalized_eq (h : r.Agree s) : r.normalized = s.normalized := by
  obtain ⟨hp, -, hl⟩ := h
  funext text
  rw [normalized, normalized, hp, hl]

end ClusterRules.Agree

/-- The writers of a store have the same preprocessors, the same tolerance and the same greatest
length of texts. -/
def Crew.Agrees {ι κ : Type} (crew : Crew ι κ) (k : κ) : Prop :=
  ∀ i j, crew.store i = some k → crew.store j = some k → ∀ component,
    ((crew.clusterer i).rules component).Agree ((crew.clusterer j).rules component)

/-- Stores, writers and all answers so far, the oldest one first. -/
structure Fleet (ι : Type) {κ : Type} (σ : κ → Type) where
  stores : ∀ k, σ k
  writers : ι → Writer
  answers : List (Answer ι) := []

/-- The step that a writer takes next. -/
inductive Action (ι : Type) where
  | call (i : ι) (component text : String) (time : Instant)
  | transact (i : ι)
  | record (i : ι)
  | load (i : ι)
  | restart (i : ι)

namespace Fleet

variable {ι κ : Type} {σ : κ → Type} [DecidableEq ι] [DecidableEq κ] [∀ k, ClusterStore (σ k)]

/-- The fleet after a writer has changed. -/
def setWriter (i : ι) (w : Writer) (f : Fleet ι σ) : Fleet ι σ :=
  { f with writers := Function.update f.writers i w }

/-- The fleet after a writer and its store have changed. -/
def setBoth (i : ι) (w : Writer) (k : κ) (s : σ k) (f : Fleet ι σ) : Fleet ι σ :=
  { f with writers := Function.update f.writers i w, stores := Function.update f.stores k s }

/-- The fleet after one more answer. -/
def answered (i : ι) (call : Call) (result : Except AssignmentError Assignment)
    (f : Fleet ι σ) : Fleet ι σ :=
  { f with answers := f.answers ++ [⟨i, call, result⟩] }

/-- The whole call of a writer without a store. -/
def callAlone (i : ι) (call : Call) (f : Fleet ι σ) : Fleet ι σ :=
  let c := (f.writers i).clusterer
  let w := c.counted call.component
  let (result, w) := w.place (w.model.rules.observe call.text call.time)
  (f.setWriter i ⟨c.update w, .idle⟩).answered i call (result.map (·.assignment))

/-- The search among the clusters that a writer knows. -/
def search (i : ι) (call : Call) (f : Fleet ι σ) : Fleet ι σ :=
  let c := (f.writers i).clusterer
  let w := c.counted call.component
  let o := w.model.rules.observe call.text call.time
  match w.model.closeFrom? 0 o with
  | none => f.setWriter i ⟨c.update w, .missed call o⟩
  | some place =>
    match w.recordMatch place o with
    | (.ok p, w) => f.setWriter i ⟨c.update w, .placed call o p⟩
    | (.error e, w) => (f.setWriter i ⟨c.update w, .idle⟩).answered i call (.error e)

/-- The transaction of a call. -/
def transact (i : ι) (k : κ) (call : Call) (o : Observation) (f : Fleet ι σ) : Fleet ι σ :=
  let c := (f.writers i).clusterer
  match (c.counted call.component).transact o (f.stores k) with
  | (.ok p, w, s) => f.setBoth i ⟨c.update w, .placed call o p⟩ k s
  | (.error e, w, s) => (f.setBoth i ⟨c.update w, .idle⟩ k s).answered i call (.error e)

/-- The recording of the day of a call. -/
def record (i : ι) (k : κ) (call : Call) (o : Observation) (p : Placement) (f : Fleet ι σ) :
    Fleet ι σ :=
  let (result, s) := recordDay call.component o.day p (f.stores k)
  (f.setBoth i ⟨(f.writers i).clusterer, .idle⟩ k s).answered i call result

/-- The reading of a whole store; if it fails, nothing has happened. -/
def load (i : ι) (k : κ) (f : Fleet ι σ) : Fleet ι σ :=
  match (f.writers i).clusterer.load (f.stores k) with
  | .ok (_, c) => f.setWriter i ⟨c, .idle⟩
  | .error _ => f

/-- One step. A writer does nothing if the step is not one that it can take. -/
def act (crew : Crew ι κ) (a : Action ι) (f : Fleet ι σ) : Fleet ι σ :=
  match a with
  | .call i component text time =>
    match crew.store i, (f.writers i).phase with
    | none, .idle => f.callAlone i ⟨component, text, time, f.answers.length⟩
    | some _, .idle => f.search i ⟨component, text, time, f.answers.length⟩
    | _, _ => f
  | .transact i =>
    match crew.store i, (f.writers i).phase with
    | some k, .missed call o => f.transact i k call o
    | _, _ => f
  | .record i =>
    match crew.store i, (f.writers i).phase with
    | some k, .placed call o p => f.record i k call o p
    | _, _ => f
  | .load i =>
    match crew.store i, (f.writers i).phase with
    | some k, .idle => f.load i k
    | _, _ => f
  | .restart i =>
    match (f.writers i).phase with
    | .idle => f.setWriter i ⟨crew.clusterer i, .idle⟩
    | _ => f

/-- Several steps, one after the other. -/
def run (crew : Crew ι κ) (actions : List (Action ι)) (f : Fleet ι σ) : Fleet ι σ :=
  actions.foldl (fun f a => act crew a f) f

/-- All writers as they start, at the given stores. -/
def begin (crew : Crew ι κ) (stores : ∀ k, σ k) : Fleet ι σ :=
  { stores, writers := fun i => ⟨crew.clusterer i, .idle⟩ }

/-! ## Steps that cannot fail -/

section Searches

omit [DecidableEq κ] [∀ k, ClusterStore (σ k)]

variable {f : Fleet ι σ} {i : ι} {c : Clusterer} {call : Call} {o : Observation}

/-- A call without a store is always answered with a cluster. -/
theorem callAlone_eq (hw : f.writers i = ⟨c, .idle⟩) :
    f.callAlone i call =
      (f.setWriter i ⟨(c.add call.component call.text call.time).2, .idle⟩).answered i call
        (.ok (c.add call.component call.text call.time).1) := by
  let w := c.counted call.component
  obtain ⟨p, w', hplace⟩ := w.exists_place (w.model.rules.observe call.text call.time)
  have hadd : w.add call.text call.time = (p.assignment, w') := CountedModel.add_eq_of_place hplace
  rw [callAlone, hw, Clusterer.add]
  dsimp only
  rw [hplace, hadd]
  rfl

/-- A search ends with a cluster that it has found ... -/
theorem search_of_match (call : Call) (hw : f.writers i = ⟨c, .idle⟩)
    (ho : (c.model call.component).rules.observe call.text call.time = o) {p : Placement}
    {m : ComponentModel} (hm : (c.model call.component).matchAfter? 0 o = some (p, m)) :
    f.search i call = f.setWriter i ⟨c.update ⟨m, c.counter⟩, .placed call o p⟩ := by
  rcases ComponentModel.match_cases 0 o (c.model call.component) with
    ⟨-, hnone⟩ | ⟨place, q, m', hclose, hrecord, hfound⟩
  · cases hm.symm.trans hnone
  · cases hm.symm.trans hfound
    have hmatch := CountedModel.recordMatch_eq (w := c.counted call.component) hrecord
    rw [search, hw]
    simp only [Clusterer.counted, ho, hclose]
    rw [← Clusterer.counted, hmatch]
    rfl

/-- ... or with none. -/
theorem search_of_none (call : Call) (hw : f.writers i = ⟨c, .idle⟩)
    (ho : (c.model call.component).rules.observe call.text call.time = o)
    (hm : (c.model call.component).matchAfter? 0 o = none) :
    f.search i call = f.setWriter i ⟨c.update (c.counted call.component), .missed call o⟩ := by
  rcases ComponentModel.match_cases 0 o (c.model call.component) with
    ⟨hclose, -⟩ | ⟨place, q, m', -, -, hfound⟩
  · rw [search, hw]
    simp only [Clusterer.counted, ho, hclose]
  · cases hm.symm.trans hfound

end Searches

variable [∀ k, LawfulStore (σ k)]

/-- What writers come to that start with empty stores. -/
inductive Reachable (crew : Crew ι κ) : Fleet ι σ → Prop where
  | begin {stores : ∀ k, σ k} : (∀ k, Holds [] (stores k)) → Reachable crew (begin crew stores)
  | act {f : Fleet ι σ} (a : Action ι) : Reachable crew f → Reachable crew (act crew a f)
  /-- A store may change in what it will do, but not in the clusters that it holds. -/
  | disturb {f : Fleet ι σ} {k : κ} {stored : List TextCluster} {s : σ k} :
      Reachable crew f → Holds stored (f.stores k) → Holds stored s →
        Reachable crew { f with stores := Function.update f.stores k s }

theorem Reachable.run {crew : Crew ι κ} {f : Fleet ι σ} (h : Reachable crew f)
    (actions : List (Action ι)) : Reachable crew (run crew actions f) := by
  induction actions generalizing f with
  | nil => exact h
  | cons a actions ih => exact ih (h.act a)

end Fleet

/-! ## A race

Two writers of one store compare whole texts. Both search for the same text before one of them has
stored its cluster. -/

namespace Race

def crew : Crew Bool Unit where
  store _ := some ()
  clusterer _ :=
    { preprocessor := { tokenization := .whole, normalize := id, isMagic := fun _ => false }
      magicWords := []
      tolerance := fun _ _ => 0 }
  models_eq _ := rfl
  next_eq _ := rfl

theorem crew_agrees : crew.Agrees () := fun _ _ _ _ _ => ⟨rfl, rfl, rfl⟩

def firstDay : Instant := .ofParts (.ofParts 2024 3 1) 0 0

def secondDay : Instant := .ofParts (.ofParts 2024 3 2) 0 0

def actions : List (Action Bool) :=
  [.call true "kernel" "up" firstDay, .call false "kernel" "up" secondDay,
    .transact false, .transact true, .record false, .record true,
    .call true "kernel" "down" secondDay, .transact true, .record true,
    .call false "kernel" "up" firstDay, .record false]

def fleet : Fleet Bool fun _ : Unit => MemoryStore :=
  (Fleet.begin crew fun _ => {}).run crew actions

/-- The writer that stores the cluster of the text. -/
def winner : Answer Bool := ⟨false, ⟨"kernel", "up", secondDay, 0⟩, .ok ⟨0, .created⟩⟩

/-- The writer that has to take it. -/
def loser : Answer Bool := ⟨true, ⟨"kernel", "up", firstDay, 0⟩, .ok ⟨0, .matched⟩⟩

/-- Another text. -/
def builder : Answer Bool := ⟨true, ⟨"kernel", "down", secondDay, 2⟩, .ok ⟨1, .created⟩⟩

/-- A call with the same text, after both. -/
def latecomer : Answer Bool := ⟨false, ⟨"kernel", "up", firstDay, 3⟩, .ok ⟨0, .matched⟩⟩

theorem fleet_answers : fleet.answers = [winner, loser, builder, latecomer] := by
  decide +kernel

theorem fleet_reachable : fleet.Reachable crew := (Fleet.Reachable.begin fun _ => rfl).run actions

end Race

end LogAnomaly
