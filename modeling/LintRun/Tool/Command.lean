import LintRun.Command
import LintRun.Extension
import LintRun.Tool.Basic

/-!
# The commands of tools

The command that runs a tool has the prefix from the settings in front, and holds the arguments from
the settings. A tool that can change files has another mode for it.
-/

namespace LintRun.Tool

/-- What the settings say about the command of a tool. -/
structure CommandSettings where
  /-- The extensions to lint. -/
  extensions : List String
  /-- Further arguments, as the shell reads them. -/
  arguments : String
  /-- Whether the tool is to change files. -/
  fix : Bool
  /-- The text in front of every command. -/
  commandPrefix : String

/-- The argument for the directory of the command. -/
def here : String := "\".\""

/-- The parts of the command behind the prefix. The files are those that were found, for a tool
that has to be given files. -/
def commandParts (tool : Tool) (settings : CommandSettings) (files : List String) : List String :=
  match tool with
  | apiLinter => ["api-linter", settings.arguments, " ".intercalate (files.map Command.quote)]
  | eslint =>
    ["npx --no-install eslint --no-color --format json", if settings.fix then "--fix" else "",
      "--ext " ++ Extension.dotted settings.extensions, settings.arguments, here]
  | flake8 =>
    ["flake8", "--filename " ++ Command.quote (Extension.pattern settings.extensions),
      settings.arguments, here]
  | black =>
    ["black", if settings.fix then "" else "--check --diff",
      "--include " ++ Command.quote (Extension.regex settings.extensions), settings.arguments,
      here]
  | gofmt => ["gofmt -l", if settings.fix then "-w" else "-d", settings.arguments, here]
  | prettier =>
    ["npx --no-install prettier --no-color",
      if settings.fix then "--write" else "--list-different", settings.arguments,
      Command.quote (Extension.glob settings.extensions)]
  | swiftFormat =>
    ["swiftformat", if settings.fix then "" else "--lint", settings.arguments, here]

/-- The command that runs a tool. -/
def command (tool : Tool) (settings : CommandSettings) (files : List String) : String :=
  Command.build (settings.commandPrefix :: tool.commandParts settings files)

/-- The command that shows that a tool works. -/
def probe (tool : Tool) (commandPrefix : String) : String :=
  Command.build [commandPrefix, tool.versionCommand]

end LintRun.Tool
