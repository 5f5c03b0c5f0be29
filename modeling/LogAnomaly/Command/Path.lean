/-!
# Paths

* `Path.steps`: the steps of a path, in order;
* `Path.isAllowed`, `Path.maxNameSize`: the limits on paths and on the names in them;
* `Path.wayTo`: the paths of the directories on the way to a path, and the path itself;
* `NamePath`: where a path leads, as the names from the root of all directories.
-/

namespace LogAnomaly

namespace Path

/-- The steps of a path. The empty ones, which come from slashes side by side or at the end, lead
nowhere. -/
def steps (path : String) : List String := path.splitOn "/"

/-- A path from the root of all directories. -/
def isAbsolute (path : String) : Bool := path.startsWith "/"

/-- The most bytes of a name. -/
def maxNameSize : Nat := 255

/-- The most bytes of a path. -/
def maxSize : Nat := 4095

/-- A path that can be followed: it is neither empty nor too long, and has no character zero. -/
def isAllowed (path : String) : Bool :=
  !path.isEmpty && path.utf8ByteSize ≤ maxSize && !path.contains '\x00'

/-- The path of a name in a directory. -/
def within (directory name : String) : String :=
  if directory.endsWith "/" then directory ++ name else directory ++ "/" ++ name

/-- The steps of a path that lead elsewhere. -/
def moves (path : String) : List String :=
  (steps path).filter fun step => step != "" && step != "."

/-- The paths of the directories on the way to a path, from the outermost to the innermost, and
then the path as it is written. -/
def wayTo (path : String) : List String :=
  let moves := moves path
  let start := if isAbsolute path then "/" else ""
  (List.range (moves.length - 1)).map (fun i => start ++ "/".intercalate (moves.take (i + 1)))
    ++ [path]

theorem getLast?_wayTo (path : String) : (wayTo path).getLast? = some path := by
  simp [wayTo]

end Path

/-- The names from the root of all directories to a place. -/
abbrev NamePath := List String

/-- One step along a path. A single point stays where it is; two points lead one name back, and
the root to itself. -/
def NamePath.step (names : NamePath) (step : String) : NamePath :=
  if step = "" || step = "." then names
  else if step = ".." then names.dropLast
  else names ++ [step]

end LogAnomaly
