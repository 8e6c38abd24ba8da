/-! # Paths

    Paths are plain texts; nothing in them is normalised. -/

namespace BenchSweep.Path

/-- A path that starts at the root. -/
def isAbsolute (path : String) : Bool :=
  path.startsWith "/"

/-- `path` seen from `base`: an absolute path stands for itself, and one slash
    separates the two unless `base` is empty or already ends in one. -/
def join (base path : String) : String :=
  if isAbsolute path || base.isEmpty then path
  else if base.endsWith '/' then base ++ path
  else base ++ "/" ++ path

/-- The parts between slashes, without empty parts and without `.`. -/
def components (path : String) : List String :=
  ((path.toList.splitOn '/').map String.ofList).filter fun part => !part.isEmpty && part != "."

/-- The last part of a path. -/
def fileName (path : String) : String :=
  ((components path).getLast?).getD ""

end BenchSweep.Path
