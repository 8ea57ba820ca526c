/-!
# File extensions

Settings name file extensions with or without dots in front. Each tool takes the extensions to lint
in a form of its own.

## Main definitions

* `Extension.bare` is an extension without dots in front.
* `Extension.dotted`, `Extension.pattern`, `Extension.glob` and `Extension.regex` write a list of
  extensions in the forms that tools take.
-/

namespace LintRun.Extension

/-- An extension without the dots in front. -/
def bare (extension : String) : String :=
  String.ofList (extension.toList.dropWhile (· = '.'))

/-- The extensions with one dot in front of each and commas between them. -/
def dotted (extensions : List String) : String :=
  ",".intercalate (extensions.map fun e => "." ++ bare e)

/-- A pattern for the names of files with each of the extensions, with commas between them. -/
def pattern (extensions : List String) : String :=
  ",".intercalate (extensions.map fun e => "*." ++ bare e)

/-- A pattern for the paths of files with one of the extensions. Alternatives stand in braces if
there is more or less than one. -/
def glob (extensions : List String) : String :=
  match extensions with
  | [extension] => "**/*." ++ bare extension
  | _ => "**/*.\x7b" ++ ",".intercalate (extensions.map bare) ++ "\x7d"

/-- The characters with a meaning of their own in a regular expression. -/
def metaChars : List Char := "\\.+*?()|[]\x7b\x7d^$#&-~".toList

/-- A regular expression for a text. -/
def literal (text : String) : String :=
  String.ofList (text.toList.flatMap fun c => if metaChars.contains c then ['\\', c] else [c])

/-- A regular expression for the paths of files with one of the extensions. -/
def regex (extensions : List String) : String :=
  "^.*\\.(" ++ "|".intercalate (extensions.map fun e => literal (bare e)) ++ ")$"

end LintRun.Extension
