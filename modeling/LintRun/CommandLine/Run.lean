import LintRun.CommandLine.Arguments
import LintRun.Config.Reading
import LintRun.FileTree.Resolve
import LintRun.Report.Pretty
import LintRun.Text.Utf8

/-!
# Commands

`run` lints a directory and `list` lists the registered tools. Before the first tool is run, all
that the arguments name has been found to be good: the form of the report, the directory, the
settings file with all that it says, and the identifiers of the tools.

## Main definitions

* `RunArguments.prepare` finds the jobs, or a reason to end without any.
* `RunArguments.execute` runs the jobs and writes the report.
* `Invocation.execute` does what the arguments ask for.
-/

namespace LintRun

/-- What a command leaves behind. -/
structure Ending where
  /-- The exit status. -/
  status : Nat
  /-- The standard output. -/
  stdout : String := ""
  /-- The standard error output. -/
  stderr : String := ""
  deriving DecidableEq, Repr

/-- The exit status if all tools were content. -/
def statusPassed : Nat := 0

/-- The exit status if a tool was not content. -/
def statusFailed : Nat := 1

/-- The exit status if something went wrong. -/
def statusError : Nat := 2

/-- A reason to end before any tool is run. -/
inductive Refusal where
  /-- There is no such form of a report. -/
  | unknownFormat (format : String)
  /-- The path leads nowhere. -/
  | noPath (path : String) (e : FileError)
  /-- The path does not lead to a directory. -/
  | notDirectory (canonical : Path)
  /-- The settings file cannot be read. -/
  | unreadableConfig (path : Path) (e : FileError)
  /-- The settings file is no document with the expected content. -/
  | malformedConfig (path : Path)
  /-- There is a mistake in the settings. -/
  | badConfig (e : Config.Mistake)
  /-- No tool is named or enabled. -/
  | noTools
  /-- A tool is named that is not registered. -/
  | unknownTool (e : UnknownTool)
  deriving DecidableEq, Repr

namespace Refusal

/-- The wording of a reason. -/
def message : Refusal → String
  | unknownFormat format =>
    "Error: invalid format " ++ Text.quoted format ++ ", must be 'pretty' or 'json'\n"
  | noPath path e => "Error: cannot access path " ++ Text.quoted path ++ ": " ++ e.message ++ "\n"
  | notDirectory canonical => "Error: " ++ canonical.text ++ " is not a directory\n"
  | unreadableConfig path e => "Error parsing config " ++ path.text ++ ": " ++ e.message ++ "\n"
  | malformedConfig path =>
    "Error parsing config " ++ path.text ++ ": " ++ Document.malformed ++ "\n"
  | badConfig e => "Error: invalid config: " ++ e.message ++ "\n"
  | noTools =>
    "Warning: no adapters enabled\nAdd adapters to lintbridge.yaml or pass --only <ID>\n"
  | unknownTool e =>
    "Error: " ++ e.message ++ "\nRun 'lintbridge list' to see available adapters\n"

/-- The exit status. To have nothing to run is no error. -/
def status : Refusal → Nat
  | noTools => statusPassed
  | _ => statusError

/-- What is left behind. -/
def ending (refusal : Refusal) : Ending :=
  { status := refusal.status, stderr := refusal.message }

end Refusal

namespace RunArguments

/-- The forms of a report. -/
def formats : List String := ["pretty", "json"]

/-- The directory to lint. -/
def root (arguments : RunArguments) (fs : FileSystem) : Except Refusal Path := do
  match fs.resolve ⟨arguments.path⟩ with
  | .error e => throw (.noPath arguments.path e)
  | .ok location =>
    if fs.isDirectory location.path then return location.path
    else throw (.notDirectory location.path)

/-- The settings file: the one that is named, or else the one that is found in a directory. -/
def configPath? (arguments : RunArguments) (fs : FileSystem) (root : Path) : Option Path :=
  match arguments.config? with
  | some path => some ⟨path⟩
  | none => (Config.candidates root).find? fs.isFile

/-- Reads a settings file. -/
def readConfig (fs : FileSystem) (path : Path) : Except Refusal Config := do
  let content ← (fs.content path).mapError (.unreadableConfig path)
  match Text.decode? content with
  | none => throw (.unreadableConfig path .notText)
  | some text =>
    match Config.ofText? text with
    | some config => return config
    | none => throw (.malformedConfig path)

/-- The settings, which have no mistake. -/
def config (arguments : RunArguments) (fs : FileSystem) (root : Path) : Except Refusal Config := do
  let config ←
    match arguments.configPath? fs root with
    | some path => readConfig fs path
    | none => pure {}
  config.validate.mapError .badConfig
  return config

/-- The identifiers of the tools to run: those that are named, or else those that are enabled. -/
def ids (arguments : RunArguments) (config : Config) : List String :=
  if arguments.only.isEmpty then config.enabledIds else arguments.only

/-- The jobs to run. -/
def prepare (arguments : RunArguments) (fs : FileSystem) : Except Refusal (List Job) := do
  if !formats.contains arguments.format then throw (.unknownFormat arguments.format)
  let root ← arguments.root fs
  let config ← arguments.config fs root
  let ids := arguments.ids config
  if ids.isEmpty then throw .noTools
  (config.jobs root ids arguments.fix).mapError .unknownTool

/-- The text of a report, with or without styles. -/
def text (arguments : RunArguments) (shown : Bool) (report : Report) : String :=
  if arguments.format = "json" then report.json arguments.path
  else report.pretty shown arguments.path

/-- The exit status for a report. -/
def statusOf (report : Report) : Nat :=
  if report.hasErrors then statusError
  else if report.passed then statusPassed
  else statusFailed

/-- Runs the tools and writes the report. -/
def execute (arguments : RunArguments) (shown : Bool) (fs : FileSystem) : Dialogue Ending :=
  match arguments.prepare fs with
  | .error refusal => .done refusal.ending
  | .ok jobs => do
    let report ← run [] (!arguments.skipSetupCheck) jobs
    return { status := statusOf report, stdout := arguments.text shown report }

end RunArguments

/-- The text with spaces behind it up to a width. -/
def padded (width : Nat) (s : String) : String :=
  s ++ String.ofList (List.replicate (width - s.length) ' ')

/-- The line for an entry in the list of registered tools. -/
def Entry.line (entry : Entry) : String :=
  let name :=
    match entry.aliasOf? with
    | some id => entry.tool.name ++ " (alias of " ++ id ++ ")"
    | none => entry.tool.name
  "  " ++ padded 24 entry.id ++ " " ++ padded 8 entry.category.text ++ " " ++ name ++ "\n"

/-- The list of registered tools. -/
def Registry.listing : String :=
  "Available adapters:\n\n" ++ String.join (Registry.entries.map Entry.line) ++
    "\nCheck adapters always run before format adapters.\n"

/-- Does what the arguments ask for. -/
def Invocation.execute (invocation : Invocation) (shown : Bool) (fs : FileSystem) :
    Dialogue Ending :=
  match invocation with
  | .run arguments => arguments.execute shown fs
  | .list => .done { status := statusPassed, stdout := Registry.listing }

end LintRun
