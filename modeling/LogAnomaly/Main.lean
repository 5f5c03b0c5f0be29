import LogAnomaly.Command.Path
import LogAnomaly.Command.Run
import Std.Time.DateTime

/-!
# The program

* `Program.world`: the world of files;
* `main`: runs the command that the arguments ask for. The output goes to the standard output,
  failures to the standard error.
-/

namespace LogAnomaly.Program

/-- What an action gives, if it does not fail. -/
def attempt {α : Type} (action : IO α) : IO (Option α) := do
  try return some (← action) catch _ => return none

/-- Whether an action succeeds. -/
def succeeds (action : IO Unit) : IO Bool := return (← attempt action).isSome

/-! ## Files -/

/-- A character for each byte. -/
def charsOfBytes (bytes : ByteArray) : List Char := bytes.toList.map fun b => Char.ofNat b.toNat

/-- The bytes that characters stand for. -/
def bytesOfChars (chars : List Char) : ByteArray := ⟨(chars.map fun c => c.toNat.toUInt8).toArray⟩

/-- The lines of bytes, up to the first one that is not UTF-8. -/
def linesOfBytes (bytes : ByteArray) : InputLines :=
  let decoded := (splitLines (charsOfBytes bytes)).map fun line =>
    (String.fromUTF8? (bytesOfChars line)).map (·.toList)
  ⟨(decoded.takeWhile (·.isSome)).filterMap id, decoded.any (·.isNone)⟩

/-- The lines of a file, if it can be opened. -/
def readLines (path : String) : IO (Option InputLines) := do
  match ← attempt (IO.FS.Handle.mk path .read) with
  | none => return none
  | some handle =>
    match ← attempt handle.readBinToEnd with
    | none => return some ⟨[], true⟩
    | some bytes => return some (linesOfBytes bytes)

/-- Whether there is a directory. -/
def isDirectory (path : String) : IO Bool :=
  succeeds do discard (IO.FS.Handle.mk (Path.within path ".") .read)

/-- Makes a directory and those on the way to it, if that is possible. -/
def makeDirectory (path : String) : IO Bool := do
  if !Path.isAllowed path then return false
  (Path.wayTo path).allM fun (path : String) => do
    if ← succeeds (IO.FS.createDir path) then return true
    isDirectory path

/-! ## Stores -/

/-- What the directory of a store holds, apart from its lock. -/
def readStore (directory : String) : IO StoreDirectory := do
  match ← attempt (IO.FS.Handle.mk (Path.within directory FileStore.documentName) .read) with
  | none => return {}
  | some handle =>
    match ← attempt handle.readToEnd with
    | none => return { document := .blocked }
    | some text => return { document := .text text }

/-- Replaces the document of a store. -/
def writeStore (directory text : String) : IO Bool := do
  let temporary := Path.within directory FileStore.temporaryName
  succeeds do
    IO.FS.writeFile temporary text
    IO.FS.rename temporary (Path.within directory FileStore.documentName)

/-- Waits for a lock until the time is up. -/
partial def waitForLock (handle : IO.FS.Handle) (timeout start pause : Nat) : IO Bool := do
  if ← handle.tryLock then return true
  match Backoff.pause? timeout ((← IO.monoNanosNow) - start) pause with
  | none => return false
  | some rest =>
    IO.sleep ((rest + 999999) / 1000000).toUInt32
    waitForLock handle timeout start (Backoff.longerPause pause)

/-- Changes a store whose lock is held. -/
def changeLocked {α : Type} (directory : String) (step : StoreDirectory → α × StoreDirectory) :
    IO α := do
  let before ← readStore directory
  let (result, after) := step before
  match after.document with
  | .text text =>
    if after = before then return result
    if ← writeStore directory text then return result
    return (step { before with tempBlocked := true }).1
  | _ => return result

/-- Changes what the directory of a store holds. A step that changes nothing needs no lock; any
other one is taken again under the lock. -/
def onStore {α : Type} (directory : String) (timeoutMs : Nat)
    (step : StoreDirectory → α × StoreDirectory) : IO α := do
  let before ← readStore directory
  let (result, after) := step before
  if after = before then return result
  match ← attempt (IO.FS.Handle.mk (Path.within directory FileStore.lockName) .append) with
  | none => return (step { before with lock := .blocked }).1
  | some handle =>
    if ← waitForLock handle (1000000 * timeoutMs) (← IO.monoNanosNow) Backoff.firstPause then
      try changeLocked directory step finally handle.unlock
    else return (step { before with lock := .held }).1

/-- The world of files. -/
def world : World IO where
  readText path := attempt (IO.FS.readFile path)
  readLines := readLines
  writeText path text := succeeds (IO.FS.writeFile path text)
  makeDirectory := makeDirectory
  onStore directory timeoutMs step := onStore directory timeoutMs step
  print text := do (← IO.getStdout).putStr text

/-! ## Environment, name and time -/

/-- The variables of the environment. -/
def readEnvironment : IO Environment := do
  let bytes := (← attempt (IO.FS.readBinFile "/proc/self/environ")).getD .empty
  return (Text.pieces '\x00' (charsOfBytes bytes)).filterMap fun entry => do
    let name := entry.takeWhile (· != '=')
    let _ :: value := entry.drop name.length | none
    return (← String.fromUTF8? (bytesOfChars name), .ofBytes (bytesOfChars value))

/-- The present moment. -/
def presentTime : IO (Option Instant) := do
  let now := Std.Time.DateTime.ofTimestampWithZone (← Std.Time.Timestamp.now) .UTC
  return do
    let day ← Day.ofParts? (now.year : Int) now.month.val.toNat now.day.val.toNat
    let second := 3600 * now.hour.val.toNat + 60 * now.minute.val.toNat + now.second.val.toNat
    Instant.ofParts? day second now.nanosecond.val.toNat

/-- A random name. -/
def randomName : IO Uuid := do
  let bytes ← IO.getRandomBytes 16
  return .ofRandom <| Vector.ofFn fun i : Fin 32 =>
    let byte := (bytes.data.getD (i.val / 2) 0).toNat
    ⟨(if i.val % 2 = 0 then byte / 16 else byte) % 16, by omega⟩

/-- The rules of the arguments, in short. -/
def usage : String :=
  "Log anomaly detection by message co-occurrence\n\n" ++
  "cluster --input <FILE> [--store-dir <DIR>]\n" ++
  "train --intervals <FILE> --output <FILE> [--initial-model <FILE> | " ++
  "--initial-assignment <FILE>] [--clusters <N>] [--seed <N>]\n" ++
  "score --model <FILE> --intervals <FILE> [--uniquify]\n\n" ++
  "[--profile <NAME>] may come before or after the command.\n"

end LogAnomaly.Program

open LogAnomaly LogAnomaly.Program in
/-- Runs the command that the arguments ask for. -/
def main (arguments : List String) : IO UInt32 := do
  match Invocation.parse arguments with
  | .error .help =>
    IO.print usage
    return 0
  | .error .wrong =>
    IO.eprint usage
    return 2
  | .ok invocation =>
    match ← presentTime with
    | none =>
      IO.eprintln "the time of the system is out of range"
      return 1
    | some time =>
      match ← (invocation.run world ⟨← randomName, time⟩ (← readEnvironment)).run with
      | .ok () => return 0
      | .error failure =>
        IO.eprintln (": ".intercalate failure.chain)
        return 1
