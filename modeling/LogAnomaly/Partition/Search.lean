import LogAnomaly.Partition.Basic

/-!
# Exchange search

A search moves one element at a time to the cluster where it is worth most. It keeps tables that
tell what a move gains without a look at the whole matrix.

* `SearchState`: the labels and the tables;
* `SearchState.ofLabels`: the tables of labels;
* `SearchState.bestMove`: where an element is worth most, and what moving it there gains;
* `SearchState.improve?`: the state after the best move of an element; a move counts only if it
  gains more than `leastGain`.
-/

namespace LogAnomaly

/-- Labels below `k` of `n` elements, and tables about them. -/
structure SearchState (α : Type) (n k : Nat) where
  labels : Vector (Fin k) n
  /-- The number of elements of each cluster. -/
  sizes : Vector Nat k
  /-- The sum over the pairs inside each cluster. -/
  intra : Vector α k
  /-- For each element the sums over the other members of each cluster. -/
  links : Vector (Vector α k) n

/-- A move of an element to a cluster, and what it gains. -/
structure Move (α : Type) (k : Nat) where
  target : Fin k
  gain : α

namespace SearchState

/-- Adds to a cell of a table. -/
def addAt {β : Type} [Add β] {k : Nat} (table : Vector β k) (place : Fin k) (x : β) :
    Vector β k :=
  table.set place (table[place] + x)

/-- Takes from a cell of a table. -/
def takeAt {β : Type} [Sub β] {k : Nat} (table : Vector β k) (place : Fin k) (x : β) :
    Vector β k :=
  table.set place (table[place] - x)

variable {α : Type} [Add α] [Sub α] [Div α] [NatCast α] {n k : Nat}

/-- The sums of an element over the other members of each cluster. -/
def linksOf (cell : Fin n → Fin n → α) (labels : Vector (Fin k) n) (e : Fin n) : Vector α k :=
  (List.finRange n).foldl
    (fun row j => if j = e then row else addAt row labels[j] (cell e j))
    (Vector.replicate k ((0 : Nat) : α))

/-- The tables of labels. -/
def ofLabels (cell : Fin n → Fin n → α) (labels : Vector (Fin k) n) : SearchState α n k :=
  let links := Vector.ofFn (linksOf cell labels)
  { labels, links
    sizes := (List.finRange n).foldl
      (fun sizes e => addAt sizes labels[e] 1) (Vector.replicate k 0)
    intra := (List.finRange n).foldl
      (fun intra e => addAt intra labels[e] (links[e][labels[e]] / ((2 : Nat) : α)))
      (Vector.replicate k ((0 : Nat) : α)) }

/-- What a cluster gives more without an element of it. -/
def removalGain (objective : Objective α) (s : SearchState α n k) (e : Fin n) : α :=
  let source := s.labels[e]
  objective.worth (s.sizes[source] - 1) (s.intra[source] - s.links[e][source]) n
    - objective.worth s.sizes[source] s.intra[source] n

/-- What a cluster gives more with an element of another one. -/
def additionGain (objective : Objective α) (s : SearchState α n k) (e : Fin n) (target : Fin k) :
    α :=
  objective.worth (s.sizes[target] + 1) (s.intra[target] + s.links[e][target]) n
    - objective.worth s.sizes[target] s.intra[target] n

/-- What moving an element to another cluster gains. -/
def gain (objective : Objective α) (s : SearchState α n k) (e : Fin n) (target : Fin k) : α :=
  s.removalGain objective e + s.additionGain objective e target

/-- Moves an element to another cluster. -/
def move (cell : Fin n → Fin n → α) (s : SearchState α n k) (e : Fin n) (target : Fin k) :
    SearchState α n k :=
  let source := s.labels[e]
  let row := s.links[e]
  { labels := s.labels.set e target
    sizes := addAt (takeAt s.sizes source 1) target 1
    intra := addAt (takeAt s.intra source row[source]) target row[target]
    links := s.links.mapFinIdx fun j links hj =>
      if j = e.val then links
      else
        let weight := cell ⟨j, hj⟩ e
        addAt (takeAt links source weight) target weight }

variable [LT α] [DecidableLT α]

/-- The better of two moves, the first one if they gain the same. -/
def better (best : Option (Move α k)) (move : Move α k) : Option (Move α k) :=
  match best with
  | none => some move
  | some old => if old.gain < move.gain then some move else some old

/-- The best move of an element, if there is another cluster. -/
def bestMove (objective : Objective α) (s : SearchState α n k) (e : Fin n) : Option (Move α k) :=
  ((List.finRange k).filter (· != s.labels[e])).foldl
    (fun best target => better best ⟨target, s.gain objective e target⟩) none

/-- The least gain of a move that does not count as one: `10 ^ -12`. -/
def leastGain : α := ((1 : Nat) : α) / ((1000000000000 : Nat) : α)

/-- The state after the best move of an element, if it gains enough. -/
def improve? (objective : Objective α) (cell : Fin n → Fin n → α) (s : SearchState α n k)
    (e : Fin n) : Option (SearchState α n k) :=
  match s.bestMove objective e with
  | none => none
  | some best => if leastGain < best.gain then some (s.move cell e best.target) else none

end SearchState

end LogAnomaly
