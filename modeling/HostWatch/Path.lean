/-
Paths as texts: the parts between slashes, the directory that a path is
in, and paths made from other paths.
-/
import HostWatch.Text.Split

namespace HostWatch

/-- A path: relative to the working directory, unless it begins with a slash. -/
abbrev Path := String

namespace Path

/-- The texts between the slashes of a path. -/
def components (path : Path) : List String :=
  (Text.splitOn '/' path.toList).map String.ofList

/-- Whether a path begins at the root. -/
def isAbsolute (path : Path) : Bool := path.toList.head? == some '/'

/-- Whether a component leads nowhere. -/
def isIdle (component : String) : Bool := component == "" || component == "."

/-- The components that lead somewhere, from the last to the first. -/
private def stepsBackwards (path : Path) : List String :=
  ((components path).filter (!isIdle ·)).reverse

/-- The path with the given last steps. -/
private def ofStepsBackwards (absolute : Bool) (steps : List String) : Path :=
  (if absolute then "/" else "") ++ "/".intercalate steps.reverse

/-- The directory that a path is in; empty if it is the working directory. -/
def parent (path : Path) : Path :=
  ofStepsBackwards (isAbsolute path) ((stepsBackwards path).drop 1)

/-- A path from a directory on; a path from the root stays as it is. -/
def join (directory path : Path) : Path :=
  if isAbsolute path || directory == "" then path
  else if directory.toList.getLast? == some '/' then directory ++ path
  else directory ++ "/" ++ path

/-- What stands before the last dot of a file name, unless that dot is its first character. -/
private def stem (name : List Char) : List Char :=
  match (Text.splitOn '.' name).dropLast with
  | [] => name
  | [[]] => name
  | pieces => ['.'].intercalate pieces

/-- The path with another extension; a path that ends in no file name stays as it is. -/
def withExtension (path : Path) (extension : String) : Path :=
  match stepsBackwards path with
  | [] => path
  | name :: steps =>
    if name == ".." then path
    else
      ofStepsBackwards (isAbsolute path)
        ((String.ofList (stem name.toList) ++ "." ++ extension) :: steps)

end Path

end HostWatch
