/-
  Files by their paths.

  * `Found` is what a path leads to;
  * `FileTree` holds the files and directories below a working directory; `FileTree.find` follows a
    path from there, through directories only.  Of what lies outside nothing is known but that the
    directories above exist.
-/
namespace MetricDocs

/-- What a path leads to. -/
inductive Found where
  | nothing
  | directory
  | file (bytes : List UInt8)
  deriving DecidableEq, Repr

/-- Files and directories by the parts of their paths. -/
structure FileTree where
  files : List (List String × List UInt8)
  directories : List (List String)

namespace FileTree

/-- The parts of a path, also the empty ones. -/
def parts (path : String) : List String := (path.toList.splitOn '/').map String.ofList

/-- The parts of a path that name something. -/
def names (path : String) : List String := (parts path).filter fun p => p ≠ "" && p ≠ "."

/-- A tree of files and directories with given paths. -/
def ofPaths (files : List (String × List UInt8)) (directories : List String) : FileTree where
  files := files.map fun f => (names f.1, f.2)
  directories := directories.map names

/-- Whether a path of names leads to a directory: one that is listed, or one above something that
    is. -/
def isDirectory (t : FileTree) (path : List String) : Bool :=
  path.isEmpty || t.directories.any (path.isPrefixOf ·) ||
    t.files.any fun f => path.isPrefixOf f.1 && path.length < f.1.length

/-- A place on the way along a path: below the working directory, or at a directory above it. -/
inductive Spot where
  | below (path : List String)
  | above

/-- Goes on from a directory to a part of a path. -/
def step (t : FileTree) (spot : Spot) (part : String) : Option Spot :=
  match spot with
  | .below path =>
    if !t.isDirectory path then none
    else if part = "" ∨ part = "." then some (.below path)
    else if part = ".." then some (if path.isEmpty then .above else .below path.dropLast)
    else some (.below (path ++ [part]))
  | .above => if part = "" ∨ part = "." ∨ part = ".." then some .above else none

def walk (t : FileTree) (spot : Spot) : List String → Option Spot
  | [] => some spot
  | part :: parts =>
    match t.step spot part with
    | some spot => t.walk spot parts
    | none => none

def find (t : FileTree) (path : String) : Found :=
  let start := if path.toList.head? = some '/' then Spot.above else Spot.below []
  match if path.isEmpty then none else t.walk start (parts path) with
  | none => .nothing
  | some .above => .directory
  | some (.below names) =>
    match t.files.find? fun f => f.1 = names with
    | some f => .file f.2
    | none => if t.isDirectory names then .directory else .nothing

end FileTree

end MetricDocs
