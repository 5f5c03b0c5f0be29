import LogAnomaly.Partition.Evaluate
import LogAnomaly.Random.Stream
import LogAnomaly.Training.Error

/-!
# Runs of the search

* `SearchParams`: how many clusters, runs and trials there are, and the seed of all chance;
* `climb`: trials of random elements, until too many in a row gain nothing;
* `searchRun`: one run, from given labels or from a random round-robin;
* `Partition.search`: the best of all runs.
-/

namespace LogAnomaly

open LogAnomaly.Random

/-- How a partition is searched. -/
structure SearchParams where
  numClusters : Nat := 20
  numRuns : Nat := 10
  seed : UInt64 := 42
  /-- The number of trials that ends a run. -/
  maxTrials : Nat := 100000
  /-- The number of trials in a row without a gain that ends a run. -/
  maxIdleTrials : Nat := 2000
  deriving DecidableEq, Repr

/-- The number of clusters for `n` elements: fewer than there are elements. -/
def usableClusters (numClusters n : Nat) : Nat :=
  if 1 < n ∧ n ≤ numClusters then n - 1 else numClusters

theorem usableClusters_pos {numClusters n : Nat} (hc : numClusters ≠ 0) :
    0 < usableClusters numClusters n := by
  unfold usableClusters
  split <;> omega

/-- The seed of a run. -/
def runSeed (seed : UInt64) (run : Nat) : UInt64 :=
  seed ^^^ ((run + 1).toUInt64 * 0x9E3779B97F4A7C15)

/-- The cluster of a place, the clusters being taken in turn. -/
def inTurn {k : Nat} (hk : 0 < k) (place : Nat) : Fin k := ⟨place % k, Nat.mod_lt place hk⟩

/-- A random order of the elements, cut into `k` clusters in turn. -/
def roundRobin (n : Nat) {k : Nat} (hk : 0 < k) (stream : WordStream) :
    Vector (Fin k) n × WordStream :=
  let (order, stream) := stream.shuffle (Vector.ofFn fun i : Fin n => i)
  let labels := (List.finRange n).foldl
    (fun labels place => labels.set (order.get place) (inTurn hk place.val))
    (Vector.replicate n (inTurn hk 0))
  (labels, stream)

section

variable {α : Type} [Add α] [Sub α] [Div α] [NatCast α] [LT α] [DecidableLT α]

/-- Tries random elements. `idle` is the number of trials without a gain that are left. -/
def climb {n k : Nat} (hn : 0 < n) (objective : Objective α) (cell : Fin n → Fin n → α)
    (maxIdle : Nat) : (trials idle : Nat) → SearchState α n k → WordStream → SearchState α n k
  | 0, _, s, _ => s
  | _ + 1, 0, s, _ => s
  | trials + 1, idle + 1, s, stream =>
    let (e, stream) := stream.below .bits64 hn
    match s.improve? objective cell e with
    | some better => climb hn objective cell maxIdle trials maxIdle better stream
    | none => climb hn objective cell maxIdle trials idle s stream

/-- The end of a run: its labels and what they are worth. -/
structure FinishedRun (α : Type) (n k : Nat) where
  labels : Vector (Fin k) n
  objective : α

/-- The labels as numbers. -/
def FinishedRun.label {n k : Nat} (r : FinishedRun α n k) (e : Fin n) : Nat := (r.labels.get e).val

/-- One run. What its labels are worth is computed afresh. -/
def searchRun (objective : Objective α) (m : InformationMatrix α) {k : Nat} (hn : 0 < m.size)
    (hk : 0 < k) (params : SearchParams) (initial : Option (Vector (Fin k) m.size)) (run : Nat) :
    FinishedRun α m.size k :=
  let stream := WordStream.ofSeed (runSeed params.seed run)
  let (start, stream) := match initial with
    | some labels => (labels, stream)
    | none => roundRobin m.size hk stream
  let labels := (climb hn objective m.cell params.maxIdleTrials params.maxTrials
    params.maxIdleTrials (.ofLabels m.cell start) stream).labels
  ⟨labels, evaluate objective m labels⟩

/-- The better of two runs, the first one if they are worth the same. -/
def FinishedRun.better {n k : Nat} (best later : FinishedRun α n k) : FinishedRun α n k :=
  if best.objective < later.objective then later else best

/-- The best of `runs + 1` runs, the first one of those that are worth the same. -/
def bestRun {n k : Nat} (result : Nat → FinishedRun α n k) (runs : Nat) : FinishedRun α n k :=
  (List.range runs).foldl (fun best run => best.better (result (run + 1))) (result 0)

/-- The first label that is not below `k`. -/
def badLabel? (k : Nat) (labels : List Nat) : Option (Nat × Nat) :=
  labels.zipIdx.find? fun (label, _) => k ≤ label

/-- Labels for `n` elements, each below `k`. -/
def checkInitial (n : Nat) {k : Nat} (hk : 0 < k) (labels : List Nat) :
    Except TrainingError (Vector (Fin k) n) :=
  if h : labels.length = n then
    match badLabel? k labels with
    | some (label, entry) => .error (.initial (.label entry label k))
    | none => .ok ⟨(labels.map (inTurn hk)).toArray, by simp [h]⟩
  else .error (.initial (.length n labels.length))

/-- Labels to start from, if there are any. -/
def checkInitial? (n : Nat) {k : Nat} (hk : 0 < k) :
    Option (List Nat) → Except TrainingError (Option (Vector (Fin k) n))
  | none => .ok none
  | some labels => (checkInitial n hk labels).map some

/-- The best partition of all runs. Fewer than three elements are left alone. -/
def Partition.search (objective : Objective α) (m : InformationMatrix α) (params : SearchParams)
    (initial : Option (List Nat)) : Except TrainingError (Partition α) :=
  if hc : params.numClusters = 0 then .error (.config (.outOfRange "num_clusters" .belowOne))
  else if params.numRuns = 0 then .error (.config (.outOfRange "num_runs" .belowOne))
  else if h : m.size < 3 then
    .ok (.compact m (fun i => i.val) (evaluate objective m (.ofFn fun i : Fin m.size => i)))
  else
    have hn : 0 < m.size := by omega
    have hk : 0 < usableClusters params.numClusters m.size := usableClusters_pos hc
    match checkInitial? m.size hk initial with
    | .error e => .error e
    | .ok start =>
      let best := bestRun (searchRun objective m hn hk params start) (params.numRuns - 1)
      .ok (.compact m best.label best.objective)

end

end LogAnomaly
