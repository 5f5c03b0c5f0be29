import LogAnomaly.Command.LogLine
import LogAnomaly.Command.Path
import LogAnomaly.Command.World

/-!
# Files in memory

* `Workspace`: directories and the texts of files, and what was printed;
* `Workspace.resolve?`: where a path leads;
* `Workspace.world`: the world of a command that runs in a workspace.
-/

namespace LogAnomaly

/-- The directory in which a command runs. -/
def workingDirectory : NamePath := ["tmp", "work"]

/-- The file in which nothing is kept. -/
def nullDevice : NamePath := ["dev", "null"]

/-- The directories that are there before a command runs. -/
def firstDirectories : List NamePath :=
  [[], ["tmp"], workingDirectory] ++ ["dev", "etc", "home", "usr", "var"].map ([·])

/-- Directories and the texts of files, and what was printed. -/
structure Workspace where
  directories : List NamePath := firstDirectories
  files : List (NamePath × String) := [(nullDevice, "")]
  output : String := ""

namespace Workspace

/-! ## Places -/

/-- The text of a file. -/
def text? (names : NamePath) (s : Workspace) : Option String := s.files.lookup names

/-- Whether there is a directory. -/
def hasDirectory (names : NamePath) (s : Workspace) : Bool := s.directories.contains names

/-- Sets the text of a file. -/
def setText (names : NamePath) (text : String) (s : Workspace) : Workspace :=
  if names = nullDevice then s
  else { s with files := (names, text) :: s.files.filter (·.1 != names) }

/-- Adds a directory. -/
def addDirectory (names : NamePath) (s : Workspace) : Workspace :=
  { s with directories := names :: s.directories }

/-- Where a step leads from a place, which has to be a directory. -/
def step? (s : Workspace) (names : NamePath) (step : String) : Option NamePath :=
  if s.hasDirectory names && step.utf8ByteSize ≤ Path.maxNameSize then some (names.step step)
  else none

/-- Where steps lead from a place. -/
def follow? (names : NamePath) (steps : List String) (s : Workspace) : Option NamePath :=
  steps.foldlM s.step? names

/-- The place where a path begins. -/
def start (path : String) : NamePath := if Path.isAbsolute path then [] else workingDirectory

/-- Where a path leads, whether or not there is anything at its end. -/
def resolve? (path : String) (s : Workspace) : Option NamePath :=
  if Path.isAllowed path then s.follow? (start path) (Path.steps path) else none

/-! ## Directories -/

/-- Makes a directory in one that is there, unless it is there itself. A slash at the end of its
path does not ask for it to be there, but a point after the slash does. -/
def makeOne? (path : String) (s : Workspace) : Option Workspace := do
  let names ← s.follow? (start path) ((Path.steps path).filter (· != ""))
  if s.hasDirectory names then some s
  else if (s.text? names).isSome then none
  else some (s.addDirectory names)

/-- Makes directories one after the other, up to the first one that cannot be made. -/
def makeEach : List String → Workspace → Bool × Workspace
  | [], s => (true, s)
  | path :: rest, s =>
    match s.makeOne? path with
    | none => (false, s)
    | some s => makeEach rest s

/-- Makes a directory and those on the way to it. If it cannot be made, those on the way to what
hinders stay. -/
def makeDirectory (path : String) (s : Workspace) : Bool × Workspace :=
  if Path.isAllowed path then makeEach (Path.wayTo path) s else (false, s)

/-! ## Files -/

/-- The text of a file. -/
def readText (path : String) (s : Workspace) : Option String :=
  (s.resolve? path).bind fun names => s.text? names

/-- The lines of a file. A directory can be opened, but not read. -/
def readLines (path : String) (s : Workspace) : Option InputLines := do
  let names ← s.resolve? path
  match s.text? names with
  | some text => some { lines := splitLines text.toList }
  | none => if s.hasDirectory names then some { lines := [], isBroken := true } else none

/-- Writes a file in a directory that is there. -/
def writeText (path text : String) (s : Workspace) : Bool × Workspace :=
  match s.resolve? path with
  | none => (false, s)
  | some names => if s.hasDirectory names then (false, s) else (true, s.setText names text)

/-- Adds a file and the directories on the way to it. -/
def addFile (path text : String) (s : Workspace) : Workspace :=
  (writeText path text (makeEach (Path.wayTo path).dropLast s).2).2

/-! ## Stores -/

/-- Whether a path leads to a place where a file can be written. -/
def isWritable (path : String) (s : Workspace) : Bool :=
  (s.resolve? path).any fun names => !s.hasDirectory names

/-- What there is of the document of a store. -/
def documentFile (directory : String) (s : Workspace) : DocumentFile :=
  match s.resolve? (Path.within directory FileStore.documentName) with
  | none => .blocked
  | some names =>
    match s.text? names with
    | some text => .text text
    | none => if s.hasDirectory names then .blocked else .absent

/-- What a directory holds for a store. -/
def storeDirectory (directory : String) (s : Workspace) : StoreDirectory where
  document := s.documentFile directory
  lock := if s.isWritable (Path.within directory FileStore.lockName) then .free else .blocked
  tempBlocked := !s.isWritable (Path.within directory FileStore.temporaryName)

/-- Changes what a directory holds for a store. -/
def onStore {α : Type} (directory : String) (step : StoreDirectory → α × StoreDirectory)
    (s : Workspace) : α × Workspace :=
  let (result, after) := step (s.storeDirectory directory)
  (result, match after.document with
    | .text text => (s.writeText (Path.within directory FileStore.documentName) text).2
    | _ => s)

/-- The world of a command that runs in a workspace. -/
def world : World (StateM Workspace) where
  readText path := fun s => (s.readText path, s)
  readLines path := fun s => (s.readLines path, s)
  writeText path text := fun s => s.writeText path text
  makeDirectory path := fun s => s.makeDirectory path
  onStore path _ step := fun s => s.onStore path step
  print text := fun s => ((), { s with output := s.output ++ text })

end Workspace

end LogAnomaly
