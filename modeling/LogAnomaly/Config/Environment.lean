import LogAnomaly.Config.Range
import LogAnomaly.Decimal.Parse
import LogAnomaly.Text.Blank
import LogAnomaly.Text.Case
import LogAnomaly.Text.Pieces
import LogAnomaly.Word

/-!
# Configuration from the environment

* `Environment`: the variables that are set, each to a text or to bytes that are none;
* `Profiled.lookup`: with a profile `P`, a key is looked up as `P_KEY` first and then as `KEY`;
  a variable that is empty or no text counts as one that is not set;
* `Config.ofProfile`, `Config.ofEnvironment`: the configuration that the variables give. A
  text that does not read as a value is an error, never the default.
-/

namespace LogAnomaly

open LogAnomaly.Decimal LogAnomaly.Text

/-- The value of a variable. -/
inductive EnvValue where
  | text (value : String)
  /-- Bytes that are no text. -/
  | raw (bytes : ByteArray) (notText : String.fromUTF8? bytes = none)

/-- The value that bytes stand for. -/
def EnvValue.ofBytes (bytes : ByteArray) : EnvValue :=
  match h : String.fromUTF8? bytes with
  | none => .raw bytes h
  | some value => .text value

/-- The variables that are set, the first of a name being the one that counts. -/
abbrev Environment := List (String × EnvValue)

/-- The text of a variable, if it is set to one. -/
def Environment.text? (env : Environment) (name : String) : Option String :=
  match env.lookup name with
  | some (.text value) => some value
  | _ => none

/-- The text of a variable that is set to one and not empty. -/
def Environment.nonEmpty? (env : Environment) (name : String) : Option String :=
  (env.text? name).filter fun value => !value.isEmpty

/-- The variables as a profile sees them. -/
structure Profiled where
  env : Environment
  profile : String

namespace Profiled

/-- The first text that is not empty among the variables of a key. -/
def lookup (p : Profiled) (key : String) : Option String :=
  if p.profile.isEmpty then p.env.nonEmpty? key
  else (p.env.nonEmpty? (p.profile ++ "_" ++ key)).or (p.env.nonEmpty? key)

/-- The value of a key, read from its trimmed text; the text is reported as it is. -/
def parse {α : Type} (p : Profiled) (read : String → Except ParseFault α) (key : String)
    (default : α) : Except ConfigError α :=
  match p.lookup key with
  | none => .ok default
  | some text =>
    match read (trim text) with
    | .ok value => .ok value
    | .error fault => .error (.invalidValue key text fault)

/-- An integer from 0 to `limit`. -/
def readNat (limit : Nat) (text : String) : Except ParseFault Nat :=
  (parseNat limit text).mapError .number

/-- A float. -/
def readFloat (text : String) : Except ParseFault Float :=
  (parseFloat text).mapError .number

/-- A truth value, in small or capital letters. -/
def readBool (text : String) : Except ParseFault Bool :=
  let word := asciiLowercase text
  if ["1", "true", "yes", "on"].contains word then .ok true
  else if ["0", "false", "no", "off"].contains word then .ok false
  else .error .notBoolean

/-- The trimmed pieces between commas, empty ones left out. -/
def readList (text : String) : List String :=
  ((pieces ',' text.toList).map fun piece => String.ofList (trimBlank piece)).filter
    fun piece => !piece.isEmpty

/-- An integer of 64 bits. -/
def nat (p : Profiled) (key : String) (default : Nat) : Except ConfigError Nat :=
  p.parse (readNat maxWord) key default

/-- A float. -/
def float (p : Profiled) (key : String) (default : Float) : Except ConfigError Float :=
  p.parse readFloat key default

/-- A truth value. -/
def bool (p : Profiled) (key : String) (default : Bool) : Except ConfigError Bool :=
  p.parse readBool key default

/-- A list of words. -/
def list (p : Profiled) (key : String) (default : List String) : List String :=
  ((p.lookup key).map readList).getD default

/-- The clustering section. -/
def clustering (p : Profiled) : Except ConfigError ClusteringSettings := do
  let d : ClusteringSettings := {}
  let maxTextLength ← p.nat "CLUSTER_MAX_TEXT_LENGTH" d.maxTextLength
  let thresholdDelta ← p.float "CLUSTER_THRESHOLD_DELTA" d.thresholdDelta
  let thresholdFactor ← p.float "CLUSTER_THRESHOLD_FACTOR" d.thresholdFactor
  let lockTimeoutMs ← p.nat "CLUSTER_LOCK_TIMEOUT_MS" d.lockTimeoutMs
  return {
    maxTextLength, thresholdDelta, thresholdFactor, lockTimeoutMs
    magicWords := p.list "CLUSTER_MAGIC_WORDS" d.magicWords
    wholeStringComponents := p.list "CLUSTER_WHOLE_STRING_COMPONENTS" d.wholeStringComponents
    storeDir := p.lookup "CLUSTER_STORE_DIR" }

/-- The training section. -/
def training (p : Profiled) : Except ConfigError TrainingSettings := do
  let d : TrainingSettings := {}
  let minAppearances ← p.nat "TRAIN_MIN_APPEARANCES" d.minAppearances
  let timeline ← p.bool "TRAIN_TIMELINE" d.timeline
  let ticksPerInterval ← p.parse (readNat maxHalfWord) "TRAIN_TICKS_PER_INTERVAL"
    d.ticksPerInterval
  let numClusters ← p.nat "TRAIN_NUM_CLUSTERS" d.numClusters
  let numRuns ← p.nat "TRAIN_NUM_RUNS" d.numRuns
  let seed ← p.nat "TRAIN_SEED" d.seed.toNat
  let alpha ← p.float "TRAIN_ALPHA" d.alpha
  let maxTrials ← p.nat "TRAIN_MAX_TRIALS" d.maxTrials
  let maxIdleTrials ← p.nat "TRAIN_MAX_IDLE_TRIALS" d.maxIdleTrials
  let minClusterSize ← p.nat "TRAIN_MIN_CLUSTER_SIZE" d.minClusterSize
  let minAvgInfoRatio ← p.parse (fun text => (readFloat text).map some)
    "TRAIN_MIN_AVG_INFO_RATIO" d.minAvgInfoRatio
  return {
    minAppearances, timeline, ticksPerInterval, numClusters, numRuns, alpha, maxTrials
    maxIdleTrials, minClusterSize, minAvgInfoRatio
    seed := seed.toUInt64
    initialAssignment := p.lookup "TRAIN_INITIAL_ASSIGNMENT"
    initialModel := p.lookup "TRAIN_INITIAL_MODEL" }

/-- The scoring section; its weights are not read from variables. -/
def scoring (p : Profiled) : Except ConfigError ScoringSettings := do
  let d : ScoringSettings := {}
  let contextFraction ← p.float "SCORE_CONTEXT_FRACTION" d.contextFraction
  let uniquifyFraction ← p.float "SCORE_UNIQUIFY_FRACTION" d.uniquifyFraction
  return { d with contextFraction, uniquifyFraction }

end Profiled

/-- The configuration of a profile, whose name is taken in capital letters. -/
def Config.ofProfile (env : Environment) (profile : String) : Except ConfigError Config := do
  let p : Profiled := ⟨env, uppercase profile⟩
  let clustering ← p.clustering
  let training ← p.training
  let scoring ← p.scoring
  let config : Config := { profile := p.profile, clustering, training, scoring }
  config.validate
  return config

/-- The configuration of the profile that the environment names. -/
def Config.ofEnvironment (env : Environment) : Except ConfigError Config :=
  Config.ofProfile env (uppercase ((env.nonEmpty? "LOGLENS_PROFILE").getD ""))

end LogAnomaly
