import LogAnomaly.Cluster.Clusterer
import LogAnomaly.Command.Arguments
import LogAnomaly.Command.Failure
import LogAnomaly.Command.LogLine
import LogAnomaly.Command.World
import LogAnomaly.Config.EnvFile
import LogAnomaly.Interval.Document
import LogAnomaly.Scoring.Document
import LogAnomaly.Scoring.Scorer
import LogAnomaly.Training.Trainer

/-!
# Commands

* `ClusterCommand.run`: assigns clusters to the lines of a file, one line of output for each;
* `TrainCommand.run`: trains a model and writes it;
* `ScoreCommand.run`: scores intervals, one line of output for each message;
* `Invocation.run`: loads the configuration and runs a command.
-/

namespace LogAnomaly

variable {m : Type → Type} [Monad m]

/-- A step of a command that may fail. -/
abbrev Step (m : Type → Type) (α : Type) : Type := ExceptT Failure m α

/-- What an answer gives, or what was being done when it failed. -/
def during {α : Type} (doing : String) : Except Failure α → Step m α
  | .ok a => pure a
  | .error e => throw (e.within doing)

/-- The intervals of a text. -/
def parseIntervals (path : String) : Option String → Except Failure (List Interval)
  | none => .error (Failure.io.within ("failed to read intervals from " ++ path))
  | some text =>
    match Interval.parseList? text with
    | none => .error (Failure.json.within ("failed to parse intervals in " ++ path))
    | some intervals => .ok intervals

/-- Reads the intervals of a file. -/
def loadIntervals (w : World m) (path : String) : Step m (List Interval) := do
  match parseIntervals path (← w.readText path) with
  | .ok intervals => pure intervals
  | .error e => throw e

/-! ## Clustering lines -/

/-- The name of an outcome. -/
def Outcome.name : Outcome → String
  | .matched => "matched"
  | .created => "created"

/-- The line of output for the cluster of a text. -/
def Assignment.write (component : String) (a : Assignment) : String :=
  component ++ "\t" ++ toString a.clusterId ++ "\t" ++ a.outcome.name ++ "\n"

/-- A directory of a store, and how long to wait for its lock. -/
structure StorePlace where
  path : String
  lockTimeoutMs : Nat

namespace ClusterCommand

/-- Finds the cluster of a text, in the store if there is one. -/
def place (w : World m) (store : Option StorePlace) (line : LogLine) (c : Clusterer) :
    m (Except AssignmentError Assignment × Clusterer) :=
  match store with
  | none =>
    let (assignment, c) := c.add line.component line.text line.time
    pure (.ok assignment, c)
  | some place =>
    w.onStore place.path place.lockTimeoutMs fun directory =>
      let (result, c, s) := c.addShared line.component line.text line.time
        (FileStore.mk directory place.lockTimeoutMs)
      ((result, c), s.directory)

/-- Handles a line. Blank lines and those that cannot be read are left out. -/
def runLine (w : World m) (store : Option StorePlace) (number : Nat) (line : List Char)
    (c : Clusterer) : Step m Clusterer :=
  match LogLine.parse? line with
  | none => pure c
  | some parsed => do
    let (result, c) ← ExceptT.lift (place w store parsed c)
    let assignment ← during ("clustering failed at line " ++ toString number)
      (result.mapError AssignmentError.failure)
    w.print (assignment.write parsed.component)
    pure c

/-- Handles lines, the first of which has the given number. -/
def runLines (w : World m) (store : Option StorePlace) :
    Nat → List (List Char) → Clusterer → Step m Unit
  | _, [], _ => pure ()
  | number, line :: lines, c => do
    let c ← runLine w store number line c
    runLines w store (number + 1) lines c

/-- Makes the directory of a store and loads its clusters. -/
def openStore (w : World m) (place : StorePlace) (c : Clusterer) : Step m Clusterer := do
  if !(← w.makeDirectory place.path) then
    throw (StoreFault.io.failure.within ("failed to open cluster store at " ++ place.path))
  let loaded ← ExceptT.lift (w.onStore place.path place.lockTimeoutMs fun directory =>
    (c.load (FileStore.mk directory place.lockTimeoutMs), directory))
  let (_, c) ← during "failed to load clusters from store"
    (loaded.mapError AssignmentError.failure)
  pure c

/-- Assigns clusters to the lines of a file. -/
def run (w : World m) (config : Config) (command : ClusterCommand) : Step m Unit := do
  let path := command.storeDir.or config.clustering.storeDir
  let store := path.map fun path => StorePlace.mk path config.clustering.lockTimeoutMs
  let empty := Clusterer.ofConfig config.clustering
  let c ← match store with
    | none => pure empty
    | some place => openStore w place empty
  match ← w.readLines command.input with
  | none => throw (Failure.io.within ("failed to open " ++ command.input))
  | some input =>
    runLines w store 1 input.lines c
    if input.isBroken then throw (Failure.io.within ("failed to read " ++ command.input))

end ClusterCommand

/-! ## Training -/

namespace TrainCommand

/-- The settings of a training: those of the command come before those of the configuration. -/
def settings (command : TrainCommand) (config : TrainingSettings) : TrainingSettings :=
  let config := { config with
    numClusters := command.clusters.getD config.numClusters
    seed := (command.seed.map Nat.toUInt64).getD config.seed }
  if command.initialModel.isSome || command.initialAssignment.isSome then
    { config with
      initialModel := command.initialModel
      initialAssignment := command.initialAssignment }
  else config

/-- The files that a starting partition is read from. -/
def initialFiles (config : TrainingSettings) : List String :=
  config.initialAssignment.toList ++ config.initialModel.toList

/-- Reads files; the answer gives the text of those that can be read. -/
def readFiles (w : World m) : List String → m (List (String × String))
  | [] => pure []
  | path :: paths => do
    let text ← w.readText path
    let rest ← readFiles w paths
    pure (match text with
      | none => rest
      | some text => (path, text) :: rest)

/-- Trains a model and writes it. -/
def run (w : World m) (stamp : Stamp) (config : Config) (command : TrainCommand) :
    Step m Unit := do
  let settings := command.settings config.training
  let intervals ← loadIntervals w command.intervals
  let files ← ExceptT.lift (readFiles w (initialFiles settings))
  let initial ← during "failed to load initial partition"
    ((StartingPoint.ofConfig (fun path => files.lookup path) settings).mapError
      TrainingError.failure)
  let trainer ← during "invalid training configuration"
    ((Trainer.ofConfig settings none).mapError TrainingError.failure)
  let outcome ← during "training failed"
    ((trainer.train stamp intervals initial).mapError Halt.failure)
  if !(← w.writeText command.output outcome.model.write) then
    throw (TrainingError.io.failure.within ("failed to write model to " ++ command.output))

end TrainCommand

/-! ## Scoring -/

namespace ScoreCommand

/-- The model of a text. -/
def parseModel (path : String) : Option String → Except Failure Model
  | none => .error (TrainingError.io.failure.within ("failed to load model from " ++ path))
  | some text =>
    match Model.read? text with
    | none => .error (TrainingError.json.failure.within ("failed to load model from " ++ path))
    | some model => .ok model

/-- The mode of a command. -/
def mode (command : ScoreCommand) : ScoringMode :=
  if command.uniquify then .uniquify else .context

/-- The lines of output for intervals. -/
def outputLines (mode : ScoringMode) (model : Model) (config : ScoringSettings)
    (intervals : List Interval) : List String :=
  ((Scorer.ofConfig mode model config).scoreIntervals intervals).1.map fun stats =>
    stats.write ++ "\n"

/-- Scores the intervals of a file. -/
def run (w : World m) (config : Config) (command : ScoreCommand) : Step m Unit := do
  match parseModel command.model (← w.readText command.model) with
  | .error e => throw e
  | .ok model =>
    let intervals ← loadIntervals w command.intervals
    (outputLines command.mode model config.scoring intervals).forM fun line => w.print line

end ScoreCommand

/-! ## The program -/

namespace Invocation

/-- The file with variables for the environment. -/
def envFile : String := ".env"

/-- The configuration of an invocation. -/
def config (invocation : Invocation) (env : Environment) (envFileText : Option String) :
    Except ConfigError Config :=
  let env := match envFileText with
    | none => env
    | some text => env.withFile text
  match invocation.profile with
  | none => Config.ofEnvironment env
  | some profile => Config.ofProfile env profile

/-- Loads the configuration and runs the command. -/
def run (w : World m) (stamp : Stamp) (env : Environment) (invocation : Invocation) :
    Step m Unit := do
  let config ← during "failed to load configuration"
    ((invocation.config env (← w.readText envFile)).mapError ConfigError.failure)
  match invocation.command with
  | .cluster command => command.run w config
  | .train command => command.run w stamp config
  | .score command => command.run w config

end Invocation

end LogAnomaly
