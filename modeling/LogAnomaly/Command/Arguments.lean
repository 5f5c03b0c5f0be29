import LogAnomaly.Decimal.Parse
import LogAnomaly.Word

/-!
# Arguments

* `Invocation`: what the arguments of the program ask for;
* `Invocation.parse`: the arguments read from left to right. An option is given as `--name value`
  or `--name=value` and at most once; its value is checked when the next option begins, so that a
  request for help counts only if all before it is right.
-/

namespace LogAnomaly

open LogAnomaly.Decimal

/-- Assigns clusters to the lines of a file. -/
structure ClusterCommand where
  input : String
  storeDir : Option String
  deriving DecidableEq, Repr

/-- Trains a model on the intervals of a file. -/
structure TrainCommand where
  intervals : String
  output : String
  initialModel : Option String
  initialAssignment : Option String
  clusters : Option Nat
  seed : Option Nat
  deriving DecidableEq, Repr

/-- Scores the intervals of a file with a model. -/
structure ScoreCommand where
  model : String
  intervals : String
  uniquify : Bool
  deriving DecidableEq, Repr

/-- What the program is to do. -/
inductive Command where
  | cluster (command : ClusterCommand)
  | train (command : TrainCommand)
  | score (command : ScoreCommand)
  deriving DecidableEq, Repr

/-- What the arguments of the program ask for. -/
structure Invocation where
  profile : Option String
  command : Command
  deriving DecidableEq, Repr

/-- Why there is no invocation. -/
inductive Usage where
  /-- Help was asked for. -/
  | help
  /-- The arguments are wrong. -/
  | wrong
  deriving DecidableEq, Repr

/-- The status with which the program ends. -/
def Usage.exitCode : Usage → Nat
  | .help => 0
  | .wrong => 2

/-- What an option takes. -/
inductive OptionKind where
  /-- No value. -/
  | flag
  /-- Any text. -/
  | text
  /-- The path of a file: a text that is not empty. -/
  | path
  /-- An integer of 64 bits. -/
  | number
  deriving DecidableEq, Repr

/-- The integer of 64 bits that a text stands for. -/
def wordOfText? (text : String) : Option Nat := (parseNat maxWord text).toOption

/-- Whether a value is of a kind. -/
def OptionKind.accepts (value : String) : OptionKind → Bool
  | .flag => true
  | .text => true
  | .path => !value.isEmpty
  | .number => (wordOfText? value).isSome

/-- An option. -/
structure OptionRule where
  name : String
  kind : OptionKind
  isRequired : Bool := false
  deriving DecidableEq, Repr

/-- The values of options, by their names. -/
abbrev OptionValues := List (String × String)

/-- The options read so far: those that are settled, and the last one with its value, if it has
come. -/
structure OptionScan where
  settled : OptionValues := []
  last : Option (OptionRule × Option String) := none

namespace OptionScan

/-- Checks the last option. -/
def settle (s : OptionScan) : Except Usage OptionValues :=
  match s.last with
  | none => .ok s.settled
  | some (_, none) => .error .wrong
  | some (rule, some value) =>
    if (s.settled.lookup rule.name).isNone && rule.kind.accepts value then
      .ok ((rule.name, value) :: s.settled)
    else .error .wrong

/-- Begins an option after the last one. -/
def begin (rule : OptionRule) (value : Option String) (s : OptionScan) :
    Except Usage OptionScan := do
  return ⟨← s.settle, some (rule, value)⟩

/-- Checks the option that has just been read. -/
def settleNow (s : OptionScan) : Except Usage OptionScan := do return ⟨← s.settle, none⟩

/-- Asks for help: this counts if all before it is right. -/
def askHelp (s : OptionScan) : Except Usage OptionScan := do
  let _ ← s.settle
  throw .help

end OptionScan

/-- What an argument is, given those before it. -/
inductive Reading where
  /-- An option or the value of one. -/
  | scanned (scan : OptionScan)
  /-- A word of its own. -/
  | word
  /-- The mark after which there are only words. -/
  | separator

namespace OptionScan

/-- Reads an option with two dashes, given by its name and what follows a sign of equality. -/
def readLong (rules : List OptionRule) (name : String) (value : Option String) (s : OptionScan) :
    Except Usage OptionScan :=
  if name = "help" then
    match value with
    | none => s.askHelp
    | some _ => .error .wrong
  else
    match rules.find? (·.name == name), value with
    | none, _ => .error .wrong
    | some ⟨name, .flag, isRequired⟩, none => do
      (← s.begin ⟨name, .flag, isRequired⟩ (some "")).settleNow
    | some ⟨_, .flag, _⟩, some _ => .error .wrong
    | some rule, none => s.begin rule none
    | some rule, some value => do (← s.begin rule (some value)).settleNow

/-- The name of a long option and its value, cut at the first sign of equality. -/
def splitLong (s : List Char) : String × Option String :=
  let name := s.takeWhile (· != '=')
  (String.ofList name, match s.drop name.length with
    | [] => none
    | _ :: value => some (String.ofList value))

/-- Reads an argument. What begins with a dash is no value, except for a single dash. -/
def read (rules : List OptionRule) (argument : String) (s : OptionScan) : Except Usage Reading :=
  match argument.toList, s.last with
  | '-' :: _ :: _, some (_, none) => .error .wrong
  | _, some (rule, none) => .ok (.scanned { s with last := some (rule, some argument) })
  | ['-', '-'], _ => .ok .separator
  | '-' :: '-' :: rest, _ =>
    let (name, value) := splitLong rest
    (s.readLong rules name value).map .scanned
  | '-' :: 'h' :: _, _ => s.askHelp.map .scanned
  | '-' :: _ :: _, _ => .error .wrong
  | _, _ => .ok .word

/-- Reads the arguments of a command: options only. -/
def readAll (rules : List OptionRule) : List String → OptionScan → Except Usage OptionValues
  | [], s => s.settle
  | argument :: rest, s => do
    match ← s.read rules argument with
    | .scanned s => readAll rules rest s
    | .separator => if rest.isEmpty then s.settle else throw .wrong
    | .word => throw .wrong

end OptionScan

namespace Invocation

/-- The option that comes before or after the name of a command. -/
def profileRule : OptionRule := ⟨"profile", .text, false⟩

/-- The names of the commands and their options. -/
def commandRules : List (String × List OptionRule) :=
  [("cluster", [⟨"input", .path, true⟩, ⟨"store-dir", .path, false⟩]),
   ("train", [⟨"intervals", .path, true⟩, ⟨"output", .path, true⟩, ⟨"initial-model", .path, false⟩,
      ⟨"initial-assignment", .path, false⟩, ⟨"clusters", .number, false⟩,
      ⟨"seed", .number, false⟩]),
   ("score", [⟨"model", .path, true⟩, ⟨"intervals", .path, true⟩, ⟨"uniquify", .flag, false⟩])]

/-- The command of a name with its values. -/
def command? (name : String) (values : OptionValues) : Option Command := do
  match name with
  | "cluster" =>
    return .cluster { input := ← values.lookup "input", storeDir := values.lookup "store-dir" }
  | "train" =>
    if (values.lookup "initial-model").isSome && (values.lookup "initial-assignment").isSome then
      none
    return .train {
      intervals := ← values.lookup "intervals"
      output := ← values.lookup "output"
      initialModel := values.lookup "initial-model"
      initialAssignment := values.lookup "initial-assignment"
      clusters := (values.lookup "clusters").bind wordOfText?
      seed := (values.lookup "seed").bind wordOfText? }
  | "score" =>
    return .score {
      model := ← values.lookup "model"
      intervals := ← values.lookup "intervals"
      uniquify := (values.lookup "uniquify").isSome }
  | _ => none

/-- Reads the arguments after the name of a command. `before` are the options before it; of two
profiles the later one counts. -/
def parseCommand (name : String) (rules : List OptionRule) (arguments : List String)
    (before : OptionScan) : Except Usage Invocation := do
  let values ← OptionScan.readAll (profileRule :: rules) arguments {}
  match command? name values with
  | none => throw .wrong
  | some command =>
    let outer ← before.settle
    return ⟨(values.lookup "profile").or (outer.lookup "profile"), command⟩

/-- The command `help`, with the name of at most one command. -/
def parseHelp : List String → Except Usage Invocation
  | [] => .error .help
  | [name] =>
    if name = "help" || (commandRules.lookup name).isSome then .error .help else .error .wrong
  | _ => .error .wrong

/-- Reads arguments up to the name of a command. -/
def parseFrom : List String → OptionScan → Except Usage Invocation
  | [], _ => .error .wrong
  | argument :: rest, s => do
    match ← s.read [profileRule] argument with
    | .scanned s => parseFrom rest s
    | .separator => throw .wrong
    | .word =>
      if argument = "help" then parseHelp rest
      else
        match commandRules.lookup argument with
        | some rules => parseCommand argument rules rest s
        | none => throw .wrong

/-- Reads the arguments of the program. -/
def parse (arguments : List String) : Except Usage Invocation := parseFrom arguments {}

end Invocation

end LogAnomaly
