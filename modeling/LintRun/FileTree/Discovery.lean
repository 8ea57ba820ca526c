import LintRun.Failure
import LintRun.FileTree.Resolve

/-!
# Discovering files

A tool that has to be given files gets all files below a directory whose paths have the extension
for interface definitions. Hidden entries are left out, and what is behind a link to a directory
too, but a link to a file counts as a file. A directory that cannot be reached by its path, or that
may not be read, is skipped.

## Main definitions

* `FileTree.visible` gives the paths of the visible files in a tree.
* `FileSystem.access` finds the place to look in, and `FileSystem.opens` says which directories on
  the way can be opened.
* `FileSystem.discover` gives the files below a directory in ascending order.
-/

namespace LintRun

/-- Whether the name of an entry says that it is hidden. -/
def isHidden (name : String) : Bool :=
  name.toList.head? = some '.'

mutual

/-- The paths of the visible files in a tree, as the names on the way. The tree itself is at the
path `path`. Whether a path leads to a file, or to a directory that can be opened, is said by
`isFile` and `opens`. -/
def FileTree.visible (isFile opens : List String → Bool) (path : List String) :
    FileTree → List (List String)
  | .file .. => [path]
  | .link _ => if isFile path then [path] else []
  | .directory entries =>
    if opens path then visibleEntries isFile opens path entries else []

/-- The paths of the visible files among the entries of the directory at the path `path`. -/
def visibleEntries (isFile opens : List String → Bool) (path : List String) :
    List (String × FileTree) → List (List String)
  | [] => []
  | (name, tree) :: rest =>
    (if isHidden name then [] else tree.visible isFile opens (path ++ [name])) ++
      visibleEntries isFile opens path rest

end

namespace FileSystem

/-- The extension of the files to discover. -/
def discoveredExtension : String := ".proto"

/-- The directory to look in: the working directory if none is named. -/
def discoveryRoot (dir : Path) : Path :=
  if dir.text = "" then ⟨"."⟩ else dir

/-- The path to an entry below a directory, from the names on the way. -/
def entryPath (root : Path) (path : List String) : Path :=
  root.join ⟨"/".intercalate path⟩

/-- Finds the location that a path leads to. If there is a directory, it has to be one that may be
read. -/
def access (fs : FileSystem) (mayRead : Location → Bool) (path : Path) :
    Except FileError Location :=
  match fs.resolve path with
  | .error e => .error e
  | .ok location =>
    if fs.isDirectory path && !mayRead location then .error .denied else .ok location

/-- Whether a path leads to a directory that may be read. -/
def opens (fs : FileSystem) (mayRead : Location → Bool) (path : Path) : Bool :=
  fs.isDirectory path && (fs.access mayRead path).toOption.isSome

/-- The files below the directory that `root` leads to and that is at a location, as paths seen from
there, in ascending order. -/
def discoverAt (fs : FileSystem) (mayRead : Location → Bool) (root : Path) (location : Location) :
    List String :=
  let entries := ((fs.tree.get? location).map FileTree.entries).getD []
  let paths := visibleEntries (fun path => fs.isFile (entryPath root path))
    (fun path => fs.opens mayRead (entryPath root path)) [] entries
  let names := paths.map fun path => Path.slashed ("/".intercalate path)
  (names.filter (discoveredExtension.toList.isSuffixOf ·.toList)).mergeSort (· ≤ ·)

/-- The failure of a discovery in a directory. -/
def discoveryFailure (root : Path) (e : FileError) : Failure :=
  .discovery root.text ("IO error for operation on " ++ root.text ++ ": " ++ e.message)

/-- The files to lint below a directory. Every directory may be read unless it is said which. -/
def discover (fs : FileSystem) (dir : Path) (mayRead : Location → Bool := fun _ => true) :
    Except Failure (List String) :=
  let root := discoveryRoot dir
  match fs.access mayRead root with
  | .ok location => .ok (fs.discoverAt mayRead root location)
  | .error e => .error (discoveryFailure root e)

end FileSystem

end LintRun
