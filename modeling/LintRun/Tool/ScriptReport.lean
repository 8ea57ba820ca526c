import LintRun.Finding
import LintRun.Format.Basic
import LintRun.Path

/-!
# Reports on scripts

The report of `Tool.eslint` lists files, and for every file the messages about it. A message has a
severity, of which only one is a warning.

## Main definitions

* `ScriptReport.File` and `ScriptReport.Message` are the records of a report.
* `ScriptReport.result` gathers the findings of a report.
-/

namespace LintRun.ScriptReport

/-- One message about a file. -/
structure Message where
  /-- The rule behind the message, if there is one. -/
  rule? : Option String
  /-- The text of the message. -/
  text : String
  /-- The first line. -/
  line : Nat
  /-- The last line, if it is given. -/
  endLine? : Option Nat
  /-- The severity, as a number. -/
  severity : Nat
  deriving DecidableEq, Repr

/-- The messages about one file. -/
structure File where
  /-- The path of the file. -/
  path : String
  /-- The messages in order. -/
  messages : List Message
  deriving DecidableEq, Repr

section Reading

variable {V : Type} {m : Type → Type} [Refusing m] [Format V m]

/-- Reads a message. -/
def Message.read (v : V) : m Message := do
  match ← Format.fields ["ruleId", "message", "line", "endLine", "severity"] v with
  | [rule, text, line, endLine, severity] =>
    return {
      rule? := ← Format.orElse none (Format.option Format.text) rule
      text := ← Format.required Format.text text
      line := ← Format.orElse 0 Format.count line
      endLine? := ← Format.orElse none (Format.option Format.count) endLine
      severity := ← Format.required (Format.natural 255) severity }
  | _ => Refusing.refuse

/-- Reads the messages about one file. -/
def File.read (v : V) : m File := do
  match ← Format.fields ["filePath", "messages"] v with
  | [path, messages] =>
    return {
      path := ← Format.required Format.text path
      messages := ← Format.orElse [] (Format.list Message.read) messages }
  | _ => Refusing.refuse

/-- Reads a report. -/
def read (v : V) : m (List File) :=
  Format.list File.read v

end Reading

/-- The number for warnings. -/
def warningNumber : Nat := 1

/-- The severity of a message. -/
def Message.level (message : Message) : Severity :=
  if message.severity = warningNumber then .warning else .error

/-- The finding for a message about the file `path`. The rule stands in parentheses behind the
text. -/
def Message.finding (path : String) (message : Message) : Finding :=
  let text :=
    match message.rule? with
    | some rule => message.text ++ " (" ++ rule ++ ")"
    | none => message.text
  Finding.spanning path message.line (message.endLine?.getD message.line) text

/-- Adds the findings for the messages about a file to a result. -/
def File.addTo (dir : Directory) (result : LintResult) (file : File) : LintResult :=
  file.messages.foldl
    (fun result message => result.push message.level (message.finding (dir.relative file.path)))
    result

/-- The result with the findings of a report, of a tool that was content or not. -/
def result (dir : Directory) (isSuccess : Bool) (files : List File) : LintResult :=
  { files.foldl (File.addTo dir) LintResult.empty with isSuccess }

end LintRun.ScriptReport
