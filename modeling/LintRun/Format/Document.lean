import LintRun.Failure
import LintRun.Format.Json
import LintRun.Format.Yaml
import LintRun.Text.Blank

/-!
# Documents

A tool that has nothing to say prints nothing, so a document with blank characters only stands for
a default value. Any other text has to be a document of its format with the expected content.

## Main definitions

* `Document.json?` and `Document.yaml?` read a document of one of the formats.
* `Document.orFailure` turns a missing document into the failure of a tool.
-/

namespace LintRun.Document

variable {α : Type}

/-- Reads a JSON document. -/
def json? (read : Json → Option α) (default : α) (text : String) : Option α :=
  if Text.isBlankText text then some default else Json.parse text >>= read

/-- Reads a YAML document. -/
def yaml? (read : Yaml.Node → Yaml.Resolving α) (default : α) (text : String) : Option α :=
  if Text.isBlankText text then some default else Yaml.parse text >>= Yaml.readRoot read

/-- The reason that is given for a text that is no document with the expected content. -/
def malformed : String := "malformed document"

/-- A document that was read, or the failure of the tool that wrote it. -/
def orFailure (tool : String) (document? : Option α) : Except Failure α :=
  match document? with
  | some document => .ok document
  | none => .error (.parse tool malformed)

end LintRun.Document
