import BenchSweep.Path

/-! # Files in memory

    A tree of directories and files below a working directory.  A place in it is
    the list of names on the way there; `..` leads out of the working directory,
    where there is nothing but the directories above it.  Everything on the way
    along a path must be a directory that exists.

    Of a program it is known only that it can be launched.  Once something has been
    written over it, it is a file like others, which may still be executed but is
    no program any more. -/

namespace BenchSweep.Rehearsal

/-- What the operating system objects to. -/
inductive Objection where
  | notFound
  | notProgram
  | denied
  | occupied
  | notDirectory
  | isDirectory
  | busy
  | longName
  | zeroInPath
  | zeroInArgument
deriving DecidableEq, Repr

/-- The wording of an objection. -/
def Objection.message : Objection → String
  | .notFound       => "No such file or directory (os error 2)"
  | .notProgram     => "Exec format error (os error 8)"
  | .denied         => "Permission denied (os error 13)"
  | .occupied       => "File exists (os error 17)"
  | .notDirectory   => "Not a directory (os error 20)"
  | .isDirectory    => "Is a directory (os error 21)"
  | .busy           => "Text file busy (os error 26)"
  | .longName       => "File name too long (os error 36)"
  | .zeroInPath     => "file name contained an unexpected NUL byte"
  | .zeroInArgument => "nul byte found in provided data"

/-- What is at a place. -/
inductive Node where
  | directory
  | program
  | file (content : List UInt8) (executable : Bool)
deriving DecidableEq, Repr

/-- A way down from the working directory. -/
abbrev Place := List String

/-- Whether a text holds the character zero, which no path does. -/
def hasZero (text : String) : Bool :=
  text.toList.contains '\x00'

/-- The most bytes that a name in a directory may have. -/
def longestName : Nat := 255

/-- The most bytes that a path may have. -/
def longestPath : Nat := 4095

/-- The working directory or a directory above it. -/
def isAtOrAbove (place : Place) : Bool :=
  place.all (· == "..")

/-- One step up. -/
def above (place : Place) : Place :=
  if isAtOrAbove place then place ++ [".."] else place.dropLast

/-- Everything below the working directory. -/
structure Files where
  entries : List (Place × Node)
deriving DecidableEq

namespace Files

/-- An empty working directory. -/
def empty : Files := ⟨[]⟩

/-- What is at a place. -/
def node? (files : Files) (place : Place) : Option Node :=
  if isAtOrAbove place then some .directory
  else (files.entries.find? fun entry => entry.1 == place).map (·.2)

/-- Puts something at a place, instead of what was there. -/
def put (files : Files) (place : Place) (node : Node) : Files :=
  ⟨files.entries.filter (fun entry => entry.1 != place) ++ [(place, node)]⟩

/-- Goes along the parts of a path; the last one need not be there. -/
def follow (files : Files) : Place → List String → Except Objection Place
  | place, []           => .ok place
  | place, part :: rest =>
      match files.node? place with
      | none            => .error .notFound
      | some .program   => .error .notDirectory
      | some (.file ..) => .error .notDirectory
      | some .directory =>
          if part = "" ∨ part = "." then follow files place rest
          else if part = ".." then follow files (above place) rest
          else if longestName < part.utf8ByteSize then .error .longName
          else follow files (place ++ [part]) rest

/-- The place that a path leads to.  Only paths from the working directory on
    lead anywhere. -/
def locate (files : Files) (path : String) : Except Objection Place :=
  if hasZero path then .error .zeroInPath
  else if longestPath < path.utf8ByteSize then .error .longName
  else if path = "" ∨ Path.isAbsolute path then .error .notFound
  else files.follow [] (path.splitOn "/")

/-- What a path leads to. -/
def find (files : Files) (path : String) : Except Objection (Place × Node) := do
  let place ← files.locate path
  match files.node? place with
  | none      => .error .notFound
  | some node => .ok (place, node)

/-- The content of a file; that of a program is left out. -/
def read (files : Files) (path : String) : Except Objection (List UInt8) := do
  match ← files.find path with
  | (_, .directory)      => .error .isDirectory
  | (_, .program)        => .ok []
  | (_, .file content _) => .ok content

/-- The part of a path before the slashes at its end. -/
def withoutEnd (path : String) : String :=
  String.ofList (path.toList.reverse.dropWhile (· == '/')).reverse

/-- Writes a whole file.  One that is there already keeps its permission to be
    executed.  A path that ends in a slash names no file. -/
def write (files : Files) (path : String) (content : List UInt8) : Except Objection Files := do
  let place ← files.locate (withoutEnd path)
  if withoutEnd path ≠ path then throw .isDirectory
  match files.node? place with
  | some .directory           => .error .isDirectory
  | some .program             => .ok (files.put place (.file content true))
  | some (.file _ executable) => .ok (files.put place (.file content executable))
  | none                      => .ok (files.put place (.file content false))

-- ── Making directories ────────────────────────────────────────────────────

/-- Whether a directory is at the end of a way from the working directory. -/
def leadsToDirectory (files : Files) (way : List String) : Bool :=
  match files.follow [] way with
  | .ok place => files.node? place == some .directory
  | .error _  => false

/-- Makes one directory.  All others on the way to it must exist, and it must be
    called by a name of its own. -/
def makeDir (files : Files) (way : List String) : Except Objection Files := do
  let place ← files.follow [] way
  if way.getLast?.all (fun part => part == "." || part == "..") then throw .occupied
  if (files.node? place).isSome then throw .occupied
  return files.put place .directory

/-- The ways to the directories that enclose the end of a way, innermost
    first. -/
def enclosing (names : List String) : List (List String) :=
  ((List.range (names.length - 1)).map fun n => names.take (n + 1)).reverse

/-- Goes outward until a directory is there or can be made.  Yields the ways to
    those that are still missing, outermost first. -/
def makeOutermost (files : Files) :
    List (List String) → List (List String) → Except Objection (Files × List (List String))
  | missing, [] => .ok (files, missing)
  | missing, way :: outer =>
      match files.makeDir way with
      | .ok files        => .ok (files, missing)
      | .error .notFound => makeOutermost files (way :: missing) outer
      | .error objection =>
          if objection = .occupied ∧ files.leadsToDirectory way then .ok (files, missing)
          else .error objection

/-- Makes directories in turn; one that is there already is none the worse for
    it.  What was made before an objection stays. -/
def makeEach (files : Files) : List (List String) → Except Objection Unit × Files
  | [] => (.ok (), files)
  | way :: rest =>
      match files.makeDir way with
      | .ok files        => makeEach files rest
      | .error objection =>
          if objection = .occupied ∧ files.leadsToDirectory way then makeEach files rest
          else (.error objection, files)

/-- Makes a directory and all directories above it; the empty path needs
    none. -/
def makeDirs (files : Files) (path : String) : Except Objection Unit × Files :=
  if path = "" then (.ok (), files)
  else if hasZero path then (.error .zeroInPath, files)
  else if longestPath < path.utf8ByteSize then (.error .longName, files)
  else if Path.isAbsolute path then (.error .notFound, files)
  else
    let way := (path.splitOn "/").filter (· ≠ "")
    match files.makeOutermost [] (way :: enclosing (Path.components path)) with
    | .error objection      => (.error objection, files)
    | .ok (files, missing) => files.makeEach missing

/-- The names in a directory with what they stand for; nothing if it is no
    directory. -/
def list (files : Files) (path : String) : List (String × Node) :=
  match files.find path with
  | .ok (place, .directory) =>
      files.entries.filterMap fun (at', node) =>
        if at'.dropLast == place then (at'.getLast?).map (·, node) else none
  | _ => []

/-- What a path leads to that may be executed. -/
def executable (files : Files) (path : String) : Except Objection (Place × Node) := do
  match ← files.find path with
  | (_, .directory)      => .error .denied
  | (_, .file _ false)   => .error .denied
  | (place, node)        => .ok (place, node)

/-- The directory that a path leads to. -/
def directory (files : Files) (path : String) : Except Objection Place := do
  match ← files.find path with
  | (place, .directory) => .ok place
  | _                   => .error .notDirectory

/-- The files with one more file or program and the directories above it, as far
    as they can be made. -/
def plant (files : Files) (path : String) (node : Node) : Files :=
  let parent := "/".intercalate (Path.components path).dropLast
  match files.makeDirs parent with
  | (.error _, files) => files
  | (.ok (), files)   =>
      match files.locate path with
      | .error _  => files
      | .ok place => files.put place node

/-- The files with one more directory, as far as it can be made. -/
def plantDir (files : Files) (path : String) : Files :=
  (files.makeDirs path).2

end Files

end BenchSweep.Rehearsal
