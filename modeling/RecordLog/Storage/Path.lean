/-!
# Paths

A path is kept as it was written, for it is shown to readers in that form. It
is followed component by component; empty components between slashes mean
nothing. A dot inside a path stays in its place, so that paths which differ in
such dots alone are alike; at the end of a path it still asks that there be a
directory before it.
-/

namespace RecordLog

/-- A path as it was written. -/
structure Path where
  text : String
  deriving DecidableEq, Repr

namespace Path

/-- The pieces of a path between its slashes. -/
def pieces (path : Path) : List String :=
  (path.text.toList.splitOn '/').map String.ofList

/-- The components of a path: its non-empty pieces. -/
def components (path : Path) : List String :=
  path.pieces.filter (· ≠ "")

/-- Whether a path starts at the root. -/
def isRooted (path : Path) : Bool :=
  path.text.toList.head? = some '/'

/-- The components that take a path somewhere: all but dots. -/
def steps (path : Path) : List String :=
  path.components.filter (· ≠ ".")

/-- The components that tell paths apart: the steps, and the dot that a path
may begin with. -/
def normalComponents (path : Path) : List String :=
  if path.pieces.head? = some "." then "." :: path.steps else path.steps

/-- Whether a path stays at the root. -/
def isRoot (path : Path) : Bool :=
  path.steps.isEmpty

/-- Whether two paths are the same but for empty components and dots inside
them. -/
def isLike (path other : Path) : Bool :=
  path.isRooted = other.isRooted && path.normalComponents = other.normalComponents

/-- Whether a path ends with a slash. -/
def endsWithSlash (path : Path) : Bool :=
  path.text.toList.getLast? = some '/'

/-- Whether the last component of a path is a dot. -/
def endsWithDot (path : Path) : Bool :=
  path.components.getLast? = some "."

/-- Whether the last component of a path is a double dot. -/
def endsWithDoubleDot (path : Path) : Bool :=
  path.components.getLast? = some ".."

/-- Whether the last component of a path is no name. -/
def endsWithDots (path : Path) : Bool :=
  path.endsWithDot || path.endsWithDoubleDot

/-- Whether a path can only name a directory: it ends with a slash, or with a
component that stands for a directory. -/
def namesDirectory (path : Path) : Bool :=
  path.endsWithSlash || path.endsWithDots

/-- The last part of a path, where it is a name. -/
def fileName? (path : Path) : Option String :=
  match path.steps.getLast? with
  | some name => if name = ".." then none else some name
  | none => none

/-- The path of a name in a directory. -/
def join (directory : Path) (name : String) : Path :=
  if directory.text = "" ∨ directory.text.toList.getLast? = some '/' then
    ⟨directory.text ++ name⟩
  else
    ⟨directory.text ++ "/" ++ name⟩

/-- The steps before the last one. -/
def parentSteps (path : Path) : List String :=
  path.steps.dropLast

/-- The path of steps from the root. -/
def fromRoot (steps : List String) : Path :=
  ⟨"/" ++ "/".intercalate steps⟩

end Path

end RecordLog
