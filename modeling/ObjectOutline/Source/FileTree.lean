import ObjectOutline.Text.Lines
import ObjectOutline.Text.Utf8

/-! File trees: the files below a working directory, as a value. Paths are resolved one part at a
time, so a path through something that is no directory fails where it leaves the directories. -/
namespace ObjectOutline

/-- Why a file could not be read. -/
inductive FileError where
  | notFound
  | isDirectory
  | notDirectory
  | notUtf8
  deriving DecidableEq, Repr

/-- The wording of a failure, with the number that the operating system gives it. -/
def FileError.message : FileError → String
  | notFound => "No such file or directory (os error 2)"
  | isDirectory => "Is a directory (os error 21)"
  | notDirectory => "Not a directory (os error 20)"
  | notUtf8 => "stream did not contain valid UTF-8"

/-- Reads the bytes of the file at a path. -/
abbrev FileReader := String → Except FileError (List UInt8)

/-- The parts of a path, empty ones included. -/
def pathParts (path : String) : List String :=
  (Text.splitAll '/' path.toList).map String.ofList

/-- The parts of a path that name something, in order. -/
def namedParts (path : String) : List String :=
  (pathParts path).filter fun part => part != "" && part != "."

/-- Named files and directories below a working directory. An entry without content is a directory;
the directories around an entry need no entry of their own. -/
structure FileTree where
  entries : List (List String × Option (List UInt8))

/-- What stands at a place in a file tree. -/
inductive FileNode where
  | missing
  | directory
  | file (content : List UInt8)

/-- A place that a path leads to: below the working directory, or a directory above it. Of what is
above, only the directories on the way to the root are known. -/
inductive FilePlace where
  | below (parts : List String)
  | above

namespace FilePlace

/-- The directory around a place. -/
def parent : FilePlace → FilePlace
  | above => above
  | below [] => above
  | below parts => below parts.dropLast

/-- What has a name in the directory at a place; nothing above the working directory. -/
def child? : FilePlace → String → Option FilePlace
  | above, _ => none
  | below parts, name => some (below (parts ++ [name]))

end FilePlace

namespace FileTree

/-- A tree from paths and what stands there. -/
def ofPaths (files : List (String × Option (List UInt8))) : FileTree :=
  ⟨files.map fun (path, content) => (namedParts path, content)⟩

/-- What stands at a place. -/
def nodeAt (tree : FileTree) : FilePlace → FileNode
  | .above => .directory
  | .below parts =>
    if parts.isEmpty then .directory
    else match tree.entries.lookup parts with
      | some (some content) => .file content
      | some none => .directory
      | none =>
        if tree.entries.any fun (path, _) => parts.isPrefixOf path then .directory else .missing

/-- Follows the parts of a path from a place. -/
def follow (tree : FileTree) (place : FilePlace) : List String → Except FileError FileNode
  | [] => .ok (tree.nodeAt place)
  | part :: rest =>
    match tree.nodeAt place with
    | .missing => .error .notFound
    | .file _ => .error .notDirectory
    | .directory =>
      if part = "" ∨ part = "." then follow tree place rest
      else if part = ".." then follow tree place.parent rest
      else match place.child? part with
        | some place => follow tree place rest
        | none => .error .notFound

/-- Reads the file at a path. A path that begins with a slash starts at the root. -/
def read (tree : FileTree) : FileReader := fun path =>
  let start := if path.startsWith "/" then FilePlace.above else .below []
  if path = "" then .error .notFound
  else match tree.follow start (pathParts path) with
    | .error error => .error error
    | .ok .missing => .error .notFound
    | .ok .directory => .error .isDirectory
    | .ok (.file content) => .ok content

end FileTree
end ObjectOutline
