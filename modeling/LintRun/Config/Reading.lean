import LintRun.Config.Basic
import LintRun.Format.Document

/-!
# Reading settings files

A settings file is a YAML document. All that it can say has a default.
-/

namespace LintRun

section

variable {V : Type} {m : Type → Type} [Refusing m] [Format V m]

/-- Reads what is said about a tool. -/
def ToolConfig.read (v : V) : m ToolConfig := do
  let names := ["enabled", "dir", "args", "extensions", "auto_fix", "command_prefix"]
  match ← Format.fields names v with
  | [enabled, dir, arguments, extensions, autoFix, commandPrefix] =>
    return {
      enabled := ← Format.orElse true Format.flag enabled
      dir? := ← Format.orElse none (Format.option Format.text) dir
      arguments := ← Format.orElse "" Format.text arguments
      extensions? := ← Format.orElse none (Format.option (Format.list Format.text)) extensions
      autoFix? := ← Format.orElse none (Format.option Format.flag) autoFix
      commandPrefix? := ← Format.orElse none (Format.option Format.text) commandPrefix }
  | _ => Refusing.refuse

/-- Reads what is said about all tools. If a tool comes twice, the second time counts. -/
def Config.readTools (v : V) : m (Table ToolConfig) := do
  let members ← Format.members v
  return Table.ofList (← members.mapM fun (id, tool) => return (id, ← ToolConfig.read tool))

/-- Reads the settings. -/
def Config.read (v : V) : m Config := do
  match ← Format.fields ["auto_fix", "command_prefix", "adapters"] v with
  | [autoFix, commandPrefix, tools] =>
    return {
      autoFix := ← Format.orElse false Format.flag autoFix
      commandPrefix := ← Format.orElse "" Format.text commandPrefix
      tools := ← Format.orElse Table.empty Config.readTools tools }
  | _ => Refusing.refuse

end

/-- Reads the text of a settings file. -/
def Config.ofText? (text : String) : Option Config :=
  Document.yaml? Config.read {} text

/-- The names under which a settings file is looked for. -/
def Config.fileNames : List String :=
  ["lintbridge.yaml", ".lintbridge.yaml", "lintbridge.yml"]

/-- The paths at which the settings file of a directory is looked for. -/
def Config.candidates (dir : Path) : List Path :=
  Config.fileNames.map fun name => dir.join ⟨name⟩

end LintRun
