import LintRun.FileTree.Basic

/-!
# Finding places in a file tree

A path leads to a location in a tree. On the way links are followed, but not more than
`linkLimit` of them, so that a circle of links comes to an end.

## Main definitions

* `FileError` says why a path leads nowhere.
* `FileSystem` is a tree with a working directory.
* `FileSystem.resolve` finds the location that a path leads to.
-/

namespace LintRun

/-- Why something cannot be done with a file. -/
inductive FileError where
  | notFound
  /-- The user may not do this. -/
  | denied
  | notDirectory
  | isDirectory
  | nameTooLong
  | tooManyLinks
  /-- The path holds the null character. -/
  | nullCharacter
  /-- The content is not text. -/
  | notText
  deriving DecidableEq, Repr

namespace FileError

/-- The number of an error, if the operating system has one for it. -/
def number? : FileError → Option Nat
  | notFound => some 2
  | denied => some 13
  | notDirectory => some 20
  | isDirectory => some 21
  | nameTooLong => some 36
  | tooManyLinks => some 40
  | nullCharacter => none
  | notText => none

/-- What an error is about. -/
def text : FileError → String
  | notFound => "No such file or directory"
  | denied => "Permission denied"
  | notDirectory => "Not a directory"
  | isDirectory => "Is a directory"
  | nameTooLong => "File name too long"
  | tooManyLinks => "Too many levels of symbolic links"
  | nullCharacter => "file name contained an unexpected NUL byte"
  | notText => "stream did not contain valid UTF-8"

/-- The wording of an error. -/
def message (e : FileError) : String :=
  match e.number? with
  | some number => e.text ++ " (os error " ++ toString number ++ ")"
  | none => e.text

end FileError

/-- A file tree and the directory that relative paths start from. -/
structure FileSystem where
  /-- The tree. -/
  tree : FileTree
  /-- The working directory. -/
  here : Location

namespace FileSystem

/-- The number of links that are followed on the way to one place. -/
def linkLimit : Nat := 40

/-- The greatest number of octets of a name. -/
def nameLimit : Nat := 255

/-- The greatest number of octets of a path. -/
def pathLimit : Nat := 4095

/-- How to treat the last name of a path. -/
structure Manner where
  /-- Whether a link is followed. -/
  followsLink : Bool := true
  /-- Whether the name may be missing. -/
  mayLack : Bool := false

/-- Finds the location that names lead to from a directory, while at most `links` links are
followed. -/
def walk (tree : FileTree) (manner : Manner) (links : Nat) (here : Location)
    (names : List String) : Except FileError Location :=
  match names with
  | [] => .ok here
  | name :: rest =>
    if name = "" ∨ name = "." then walk tree manner links here rest
    else if name = ".." then walk tree manner links here.dropLast rest
    else if name.utf8ByteSize > nameLimit then .error .nameTooLong
    else
      let there := here ++ [name]
      match tree.get? there with
      | none => if rest = [] ∧ manner.mayLack then .ok there else .error .notFound
      | some (.directory _) => walk tree manner links there rest
      | some (.file ..) => if rest = [] then .ok there else .error .notDirectory
      | some (.link target) =>
        if rest = [] ∧ ¬manner.followsLink then .ok there
        else
          match links with
          | 0 => .error .tooManyLinks
          | links + 1 =>
            let target : Path := ⟨target⟩
            let start := if target.isAbsolute then [] else here
            walk tree manner links start (target.pieces ++ rest)
termination_by (links, names.length)

/-- Finds the location that a path leads to. -/
def resolve (fs : FileSystem) (path : Path) (manner : Manner := {}) :
    Except FileError Location :=
  if path.text.toList.contains '\x00' then .error .nullCharacter
  else if path.text = "" then .error .notFound
  else if path.text.utf8ByteSize > pathLimit then .error .nameTooLong
  else walk fs.tree manner linkLimit (if path.isAbsolute then [] else fs.here) path.pieces

/-- What is at the place that a path leads to. -/
def find (fs : FileSystem) (path : Path) (manner : Manner := {}) :
    Except FileError FileTree := do
  match fs.tree.get? (← fs.resolve path manner) with
  | some tree => return tree
  | none => throw .notFound

/-- The canonical path of the place that a path leads to. -/
def canonical? (fs : FileSystem) (path : Path) : Option Path :=
  (fs.resolve path).toOption.map Location.path

/-- The content of the file that a path leads to. -/
def content (fs : FileSystem) (path : Path) : Except FileError (List UInt8) := do
  match ← fs.find path with
  | .file content _ => return content
  | _ => throw .isDirectory

/-- Whether a path leads to a file. -/
def isFile (fs : FileSystem) (path : Path) : Bool :=
  match fs.find path with
  | .ok tree => tree.isFile
  | .error _ => false

/-- Whether a path leads to a directory. -/
def isDirectory (fs : FileSystem) (path : Path) : Bool :=
  match fs.find path with
  | .ok tree => tree.isDirectory
  | .error _ => false

/-- Whether a path leads to a file that can be run. -/
def isExecutable (fs : FileSystem) (path : Path) : Bool :=
  match fs.find path with
  | .ok (.file _ isExecutable) => isExecutable
  | _ => false

/-- The path at which an executable is found: the name itself if it has more than one component,
and else the first place with this name in the given directories. -/
def executable? (fs : FileSystem) (directories : List Path) (name : String) : Option Path :=
  let path : Path := ⟨name⟩
  if name = "" then none
  else if path.components.length > 1 then if fs.isExecutable path then some path else none
  else (directories.map (·.join path)).find? fs.isExecutable

end FileSystem

end LintRun
