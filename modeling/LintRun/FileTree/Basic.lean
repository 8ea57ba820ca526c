import LintRun.Path

/-!
# File trees

A `FileTree` is a file, a symbolic link or a directory with named entries. A place in a tree is
given by the names on the way to it, its `Location`.

## Main definitions

* `FileTree.get?` gives what is at a location.
* `FileTree.set` and `FileTree.remove` change what is there.
-/

namespace LintRun

/-- A file, a link, or a directory with what is in it. -/
inductive FileTree where
  /-- A file. -/
  | file (content : List UInt8) (isExecutable : Bool)
  /-- A symbolic link. -/
  | link (target : String)
  /-- A directory. -/
  | directory (entries : List (String × FileTree))
  deriving Inhabited

/-- The names on the way from the root of a tree to a place in it. -/
abbrev Location := List String

namespace FileTree

/-- The empty directory. -/
def emptyDirectory : FileTree := directory []

/-- What is in a directory. Nothing is in a file or a link. -/
def entries : FileTree → List (String × FileTree)
  | directory entries => entries
  | _ => []

/-- Whether the tree is a directory. -/
def isDirectory : FileTree → Bool
  | directory _ => true
  | _ => false

/-- Whether the tree is a file. -/
def isFile : FileTree → Bool
  | file .. => true
  | _ => false

/-- What is at a location. -/
def get? (tree : FileTree) : Location → Option FileTree
  | [] => some tree
  | name :: rest => do (← tree.entries.lookup name).get? rest

/-- The entries with a new value for a name, which may be new too. -/
def putEntry (name : String) (value : FileTree) :
    List (String × FileTree) → List (String × FileTree)
  | [] => [(name, value)]
  | entry :: rest =>
    if entry.1 = name then (name, value) :: rest else entry :: putEntry name value rest

/-- The tree with a new value at a location. Directories on the way are made where they lack. -/
def set (tree : FileTree) (value : FileTree) : Location → FileTree
  | [] => value
  | name :: rest =>
    let old := (tree.entries.lookup name).getD emptyDirectory
    directory (putEntry name (old.set value rest) tree.entries)

/-- The tree without what is at a location. The root stays. -/
def remove (tree : FileTree) : Location → FileTree
  | [] => tree
  | [name] =>
    match tree with
    | directory entries => directory (entries.filter (·.1 ≠ name))
    | tree => tree
  | name :: rest =>
    match tree.entries.lookup name with
    | some old => directory (putEntry name (old.remove rest) tree.entries)
    | none => tree

end FileTree

/-- The absolute path to a location. -/
def Location.path (location : Location) : Path :=
  ⟨"/" ++ "/".intercalate location⟩

end LintRun
