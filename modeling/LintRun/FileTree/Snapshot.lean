import LintRun.FileTree.Resolve
import LintRun.Format.Basic
import LintRun.Text.Utf8

/-!
# Snapshots of file trees

A file tree is written down as a list of what stands at its paths. The entries are put into a tree
one after the other; directories on the way are made where they lack.

## Main definitions

* `Planting` is an entry of a snapshot.
* `FileSystem.plant` puts an entry into a tree.
* `Planting.read` reads an entry from a document.
-/

namespace LintRun

/-- Something at a path. -/
structure Planting where
  /-- The path. -/
  path : Path
  /-- What stands there. -/
  tree : FileTree

namespace FileSystem

/-- The location for a path that may lead nowhere so far. -/
def locationFor (fs : FileSystem) (path : Path) (followsLink : Bool) : Location :=
  match fs.resolve path { followsLink, mayLack := true } with
  | .ok location => location
  | .error _ =>
    let start := if path.isAbsolute then [] else fs.here
    start ++ path.components.filterMap fun
      | .name name => some name
      | _ => none

/-- Puts something at a path. A directory that is there already keeps its content, and what stands
behind a link is changed in place of the link unless it becomes a link itself. -/
def plant (fs : FileSystem) (planting : Planting) : FileSystem :=
  let put (followsLink : Bool) : FileSystem :=
    let location := fs.locationFor planting.path followsLink
    { fs with tree := fs.tree.set planting.tree location }
  match planting.tree with
  | .directory _ => if fs.isDirectory planting.path then fs else put true
  | .link _ => put false
  | .file .. => put true

end FileSystem

variable {V : Type} {m : Type → Type} [Refusing m] [Format V m]

/-- The greatest value of an octet. -/
def maxOctet : Nat := 255

/-- Reads the octets of a file: those of a text, or a list of them. -/
def readOctets (content? bytes? : Option V) : m (List UInt8) :=
  match bytes? with
  | some bytes => do return (← Format.list (Format.natural maxOctet) bytes).map UInt8.ofNat
  | none => do return Text.encode (← Format.orElse "" Format.text content?)

/-- Reads an entry of a snapshot. -/
def Planting.read (v : V) : m Planting := do
  match ← Format.fields ["path", "content", "bytes", "dir", "link", "exec"] v with
  | [path, content, bytes, dir, link, exec] =>
    let path : Path := ⟨← Format.required Format.text path⟩
    if ← Format.orElse false Format.flag dir then return ⟨path, .emptyDirectory⟩
    match link with
    | some target => return ⟨path, .link (← Format.text target)⟩
    | none =>
      let octets ← readOctets content bytes
      return ⟨path, .file octets (← Format.orElse false Format.flag exec)⟩
  | _ => Refusing.refuse

end LintRun
