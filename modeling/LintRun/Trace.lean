import LintRun.Notice
import LintRun.Text.Quoted

/-!
# Traces

Notices are written to a trace for developers. An entry of the trace has a level and named fields.
-/

namespace LintRun.Trace

/-- How much an entry matters. -/
inductive Level where
  | error
  | info
  | debug
  | trace
  deriving DecidableEq, Repr

/-- The word for a level. -/
def Level.text : Level → String
  | error => "ERROR"
  | info => "INFO"
  | debug => "DEBUG"
  | trace => "TRACE"

/-- The value of a field. -/
inductive Value where
  | text (s : String)
  | number (i : Int)
  deriving DecidableEq, Repr

/-- An entry of a trace. -/
structure Record where
  /-- How much the entry matters. -/
  level : Level
  /-- What happened, unless the fields say it. -/
  message? : Option String
  /-- The fields. -/
  fields : List (String × Value)
  deriving DecidableEq, Repr

/-- The number of octets of a text. -/
def size (s : String) : Value := .number s.utf8ByteSize

/-- The entries for a notice. -/
def records : Notice → List Record
  | .setupFailed tool failure =>
    [⟨.error, some "setup verification failed",
      [("adapter", .text tool), ("error", .text failure.message)]⟩]
  | .filesDiscovered tool dir files =>
    [⟨.debug, some "matched files",
      [("adapter", .text tool), ("dir", .text dir.text), ("count", .number files.length),
       ("files", .text (Text.quotedList files))]⟩]
  | .noFilesMatched tool dir =>
    [⟨.info, some "no matching files, skipping tool invocation",
      [("adapter", .text tool), ("dir", .text dir.text)]⟩]
  | .commandBuilt tool command =>
    [⟨.debug, some "running command", [("adapter", .text tool), ("command", .text command)]⟩]
  | .rawOutput tool output =>
    ⟨.debug, some "tool finished",
      [("adapter", .text tool), ("status", .number output.status),
       ("stdout_bytes", size output.stdout), ("stderr_bytes", size output.stderr)]⟩ ::
      if output.stderr = "" then []
      else [⟨.trace, none, [("adapter", .text tool), ("stderr", .text output.stderr)]⟩]

end LintRun.Trace
