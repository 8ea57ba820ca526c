import LintRun.Text.Split

/-!
# Paths

A path is a text in which slashes separate names. Two paths are compared by their components:
repeated slashes and inner dots do not count, two dots stay. The text itself is kept as it was
given, because it is shown to the user.

## Main definitions

* `Path.components` gives the components of a path.
* `Path.join` places one path behind another, `Path.stripPrefix?` takes the components of one path
  from the front of another.
* `Directory.relative` names a reported file relative to a directory.

## Design notes

A tool may report files with the canonical path of its directory although it was started with
another name for it. A `Directory` therefore holds both, the name in the settings and the
canonical path, which is missing if the directory has none.
-/

namespace LintRun

/-- A path, as the text that was given for it. -/
structure Path where
  /-- The text of the path. -/
  text : String
  deriving DecidableEq, Repr, Inhabited

/-- One step of a path. -/
inductive Component where
  /-- The slash in front of an absolute path. -/
  | root
  /-- The dot in front of a relative path. -/
  | current
  /-- Two dots. -/
  | parent
  /-- The name of an entry. -/
  | name (text : String)
  deriving DecidableEq, Repr

namespace Component

/-- The text of a component. -/
def text : Component → String
  | root => "/"
  | current => "."
  | parent => ".."
  | name text => text

/-- The component that a piece of text between two slashes stands for, if it counts. -/
def ofPiece? (piece : String) : Option Component :=
  if piece = "" ∨ piece = "." then none
  else if piece = ".." then some parent
  else some (name piece)

end Component

namespace Path

/-- Whether the path starts at the root. -/
def isAbsolute (p : Path) : Bool :=
  p.text.toList.head? == some '/'

/-- The pieces of the path between its slashes. -/
def pieces (p : Path) : List String :=
  Text.splitText '/' p.text

/-- The components of a path. Empty pieces and dots do not count, except for a dot at the front of
a relative path. -/
def components (p : Path) : List Component :=
  let inner := p.pieces.filterMap Component.ofPiece?
  if p.isAbsolute then .root :: inner
  else if p.pieces.head? = some "." then .current :: inner
  else inner

/-- The path `q` as seen from `p`: `q` itself if it is absolute, and else `q` behind `p`, with a
slash between them unless `p` is empty or ends with one. -/
def join (p q : Path) : Path :=
  if q.isAbsolute then q
  else if p.text.toList.getLast?.all (· == '/') then ⟨p.text ++ q.text⟩
  else ⟨p.text ++ "/" ++ q.text⟩

/-- The components of `p` behind those of `base`, if `p` starts with them. -/
def stripPrefix? (base p : Path) : Option (List Component) :=
  if base.components.isPrefixOf p.components then
    some (p.components.drop base.components.length)
  else none

/-- The text of a relative path: its components other than the leading dot, between slashes. -/
def render (components : List Component) : String :=
  "/".intercalate ((components.filter (· ≠ .current)).map Component.text)

/-- The text with every backslash turned into a slash. -/
def slashed (text : String) : String :=
  text.map fun c => if c = '\\' then '/' else c

end Path

/-- A directory that a tool runs in. -/
structure Directory where
  /-- The directory as it is named in the settings. -/
  path : Path
  /-- The absolute path of the directory without links and dots, if the directory has one. -/
  canonical? : Option Path
  deriving DecidableEq, Repr

namespace Directory

/-- The name of a reported file. An absolute path loses the components of the directory, or else
those of its canonical path; outside of both it keeps its text with slashes for backslashes. A
relative path is shown by its components. -/
def relative (dir : Directory) (reported : String) : String :=
  let path : Path := ⟨reported⟩
  if path.isAbsolute then
    match dir.path.stripPrefix? path with
    | some rest => Path.render rest
    | none =>
      match dir.canonical?.bind (·.stripPrefix? path) with
      | some rest => Path.render rest
      | none => Path.slashed reported
  else Path.render path.components

end Directory

end LintRun
