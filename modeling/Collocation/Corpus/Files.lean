import Collocation.Corpus.Glob
import Collocation.Corpus.Source

/-!
# Files

`Files` is a way to look at files: to read one and to list a directory.  `Files.ofList` looks at files in
memory.  A corpus is made of the files at some paths, or of those that a file name pattern matches.
-/

namespace Collocation

/-- A way to look at files. -/
structure Files (m : Type → Type) where
  /-- The bytes of the file at a path, absent if it cannot be read. -/
  read : String → m (Option (List UInt8))
  /-- The entries of the directory at a path, absent if there is none; the empty path is the current
  directory. -/
  entries : String → m (Option (List DirectoryEntry))

namespace Files

/-- What stands at a place: the bytes of a file, or a directory. -/
abbrev Location :=
  List (List Char) × Option (List UInt8)

/-- The directories above a place. -/
def directoriesAbove (place : List (List Char)) : List Location :=
  (List.range place.length).map fun count => (place.take count, none)

/-- Everything there is if some files lie in a directory, the last of equal names first. -/
def locations (home : String) (files : List (String × List UInt8)) : List Location :=
  let base := Path.steps home
  let placed := files.reverse.flatMap fun file =>
    let place := base ++ Path.steps file.1
    (place, some file.2) :: directoriesAbove place
  placed ++ (base, none) :: directoriesAbove base

/-- The entry that a location makes in a directory, if it lies in it directly. -/
def entryIn? (directory : List (List Char)) (location : Location) : Option DirectoryEntry := do
  let name ← location.1.getLast?
  if location.1.dropLast = directory then some ⟨String.ofList name, location.2.isNone⟩ else none

/-- The location that a path leads to. -/
def find? (home : String) (locations : List Location) (path : String) : Option Location := do
  let isDirectory := fun place =>
    locations.any fun location => location.1 == place && location.2.isNone
  let start := if Path.isAbsolute path then [] else Path.steps home
  let place ← Path.follow? isDirectory start (Path.parts path)
  locations.find? fun location => location.1 == place

/-- Files in memory, by their paths from a directory, which is the current one. -/
def ofList (home : String) (files : List (String × List UInt8)) : Files Id :=
  let locations := locations home files
  { read := fun path => (find? home locations path).bind Prod.snd
    entries := fun path =>
      match find? home locations path with
      | some (place, none) => some (locations.filterMap (entryIn? place)).eraseDups
      | _ => none }

/-- How deep directories are searched. -/
def depth : Nat := 4096

end Files

namespace Corpus

variable {m : Type → Type} [Monad m]

/-- The corpus of the files at some paths. -/
def ofPaths (files : Files m) (paths : List String) : m Corpus := do
  let files ← paths.mapM fun path => do pure (CorpusFile.mk path (← files.read path))
  pure ⟨files⟩

/-- The corpus of the files that a pattern matches, in ascending order of their paths. -/
def ofGlob (files : Files m) (glob : Glob) : m Corpus := do
  ofPaths files (← glob.expand files.entries Files.depth)

end Corpus
end Collocation
