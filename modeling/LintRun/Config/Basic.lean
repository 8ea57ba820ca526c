import LintRun.Job
import LintRun.Table
import LintRun.Text.Blank

/-!
# Settings files

A settings file says which tools are enabled and how they are run. What it says about one tool goes
before what it says about all.

## Main definitions

* `Config` is the content of a settings file.
* `Config.jobs` gives the jobs for some identifiers.
* `Config.validate` finds mistakes in a settings file.
-/

namespace LintRun

/-- What a settings file says about one tool. -/
structure ToolConfig where
  /-- Whether the tool runs if no tools are named. -/
  enabled : Bool := true
  /-- The directory to run the tool in. -/
  dir? : Option String := none
  /-- Further arguments. -/
  arguments : String := ""
  /-- The extensions to lint. -/
  extensions? : Option (List String) := none
  /-- Whether the tool is to change files. -/
  autoFix? : Option Bool := none
  /-- The text in front of every command. -/
  commandPrefix? : Option String := none
  deriving DecidableEq, Repr

/-- The content of a settings file. -/
structure Config where
  /-- Whether tools are to change files. -/
  autoFix : Bool := false
  /-- The text in front of every command. -/
  commandPrefix : String := ""
  /-- What is said about single tools, by identifier. -/
  tools : Table ToolConfig := Table.empty

namespace Config

/-- The identifiers of the enabled tools in ascending order. -/
def enabledIds (config : Config) : List String :=
  (config.tools.entries.filter (·.2.enabled)).map Prod.fst

/-- The directory for a tool, as seen from the root of the run. -/
def resolveDir (root : Path) (dir? : Option String) : Path :=
  match dir? with
  | some dir => root.join ⟨dir⟩
  | none => root

/-- The job for an entry. All tools change files if `forceFix` is set. -/
def job (config : Config) (root : Path) (forceFix : Bool) (entry : Entry) : Job :=
  let tool := (config.tools.get? entry.id).getD {}
  { entry
    settings := {
      dir := resolveDir root tool.dir?
      extensions := tool.extensions?.getD entry.tool.defaultExtensions
      arguments := tool.arguments
      fix := forceFix || tool.autoFix?.getD config.autoFix
      commandPrefix := tool.commandPrefix?.getD config.commandPrefix } }

/-- The jobs for some identifiers in the order of `Registry.plan`. -/
def jobs (config : Config) (root : Path) (ids : List String) (forceFix : Bool) :
    Except UnknownTool (List Job) :=
  return (← Registry.plan ids).map (config.job root forceFix)

/-! ## Mistakes -/

/-- A mistake in a settings file. -/
inductive Mistake where
  /-- There is no such tool. -/
  | unknownTool (e : UnknownTool)
  /-- The list of extensions is empty. -/
  | noExtensions (id : String)
  /-- An extension has no character but dots. -/
  | emptyExtension (id extension : String)
  /-- The directory is blank. -/
  | blankDir (id : String)
  deriving DecidableEq, Repr

/-- The wording of a mistake. -/
def Mistake.message : Mistake → String
  | .unknownTool e => e.message
  | .noExtensions id => "adapter " ++ Text.quoted id ++ ": extensions must not be empty"
  | .emptyExtension id extension =>
    "adapter " ++ Text.quoted id ++ ": invalid extension " ++ Text.quoted extension
  | .blankDir id => "adapter " ++ Text.quoted id ++ ": dir must not be empty"

/-- Looks for a mistake in a list of extensions. -/
def validateExtensions (id : String) (extensions : List String) : Except Mistake Unit :=
  if extensions = [] then .error (.noExtensions id)
  else
    match extensions.find? (Extension.bare · = "") with
    | some extension => .error (.emptyExtension id extension)
    | none => .ok ()

/-- Looks for a mistake in what is said about a tool. -/
def validateTool (id : String) (tool : ToolConfig) : Except Mistake Unit := do
  let _ ← (Registry.resolve id).mapError Mistake.unknownTool
  if let some extensions := tool.extensions? then validateExtensions id extensions
  if tool.dir?.any Text.isBlankText then throw (.blankDir id)

/-- Looks for a mistake. The first one in ascending order of identifiers counts. -/
def validate (config : Config) : Except Mistake Unit :=
  config.tools.entries.forM fun (id, tool) => validateTool id tool

end Config

end LintRun
