import EventMesh.Config.Loader

/-!
Surroundings held in memory, to try out loading: a few files in a tree, a current directory, a home
and variables. A path is followed part by part; it goes up only from directories that are there.
-/

namespace EventMesh.Config

/-- A tree of files, by their full paths. -/
structure FileTree where
  /-- The directory that relative paths start in. -/
  current : List String
  directories : List (List String)
  files : List (List String × ByteArray)

namespace FileTree

/-- Follows the parts of a path from a directory. -/
def follow (t : FileTree) (start : List String) : List String → Option (List String)
  | [] => some start
  | "" :: rest | "." :: rest => t.follow start rest
  | ".." :: rest => if start ∈ t.directories then t.follow start.dropLast rest else none
  | part :: rest => t.follow (start ++ [part]) rest

/-- The parts of a path. -/
def parts (path : String) : List String := (Text.split '/' path.toList).map String.ofList

/-- What a path leads to. A path that starts with the name of the tree or with a slash starts at its
root. -/
def content (t : FileTree) (path : String) : FileContent :=
  let ps := parts path
  let start := if ps.head? = some "" ∨ ps.head? = t.current.head? then [] else t.current
  match (t.follow start ps).bind fun place => t.files.lookup place with
  | some bytes => .bytes bytes
  | none => .missing

end FileTree

/-- Surroundings in memory. A variable whose bytes are no text does not count as set. -/
def sandbox (t : FileTree) (home : String) (overrides : String → Option ByteArray) :
    Surroundings where
  home := home
  file := t.content
  text? name := (overrides name).bind String.fromUTF8?

end EventMesh.Config
