/-!
# Tools

The linters and formatters that can be run. A tool has a name for people, an executable that has to
be installed, a command that shows that it works, and the extensions that it lints by default.
-/

namespace LintRun

/-- A linter or formatter. -/
inductive Tool where
  /-- Checks interface definitions, whose files have to be named one by one. -/
  | apiLinter
  | eslint
  | flake8
  | black
  | gofmt
  | prettier
  | swiftFormat
  deriving DecidableEq, Repr

namespace Tool

/-- The name for people. -/
def name : Tool → String
  | apiLinter => "APILinter"
  | eslint => "ESLint"
  | flake8 => "Flake8"
  | black => "Black"
  | gofmt => "gofmt"
  | prettier => "Prettier"
  | swiftFormat => "SwiftFormat"

/-- The executable that has to be installed. It may be one that starts the tool. -/
def executable : Tool → String
  | apiLinter => "api-linter"
  | eslint => "npx"
  | flake8 => "flake8"
  | black => "black"
  | gofmt => "go"
  | prettier => "npx"
  | swiftFormat => "swiftformat"

/-- A command that ends well if the tool works. -/
def versionCommand : Tool → String
  | apiLinter => "api-linter --version"
  | eslint => "npx --no-install eslint -v"
  | flake8 => "flake8 --version"
  | black => "black --version"
  | gofmt => "go version"
  | prettier => "npx --no-install prettier --version"
  | swiftFormat => "swiftformat --version"

/-- The extensions that are linted if the settings name none. -/
def defaultExtensions : Tool → List String
  | apiLinter => ["proto"]
  | eslint => ["js"]
  | flake8 => ["py"]
  | black => ["py"]
  | gofmt => ["go"]
  | prettier =>
    ["css", "html", "js", "json", "jsx", "md", "sass", "scss", "ts", "tsx", "vue", "yaml", "yml"]
  | swiftFormat => ["swift"]

end Tool

end LintRun
