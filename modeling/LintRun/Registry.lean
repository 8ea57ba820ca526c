import LintRun.Text.Quoted
import LintRun.Tool.Basic

/-!
# The registry of tools

Settings name tools by identifiers. An identifier says whether its tool checks or formats, and may
be an alias of another identifier.

## Main definitions

* `Registry.entries` are the identifiers in the order in which they are listed.
* `Registry.resolve` finds the entry for an identifier.
* `Registry.plan` puts identifiers in the order in which their tools run.
-/

namespace LintRun

/-- What a tool is there for. -/
inductive Category where
  /-- It finds problems. -/
  | check
  /-- It puts files in shape. -/
  | format
  deriving DecidableEq, Repr

namespace Category

/-- The word for a category. -/
def text : Category → String
  | check => "check"
  | format => "format"

/-- The place of a category in a run. -/
def rank : Category → Nat
  | check => 0
  | format => 1

end Category

/-- A tool under an identifier. -/
structure Entry where
  /-- The identifier. -/
  id : String
  /-- What the tool is there for. -/
  category : Category
  /-- The tool. -/
  tool : Tool
  /-- The identifier that this one is an alias of. -/
  aliasOf? : Option String
  deriving DecidableEq, Repr

/-- A text that is no identifier. -/
structure UnknownTool where
  /-- The text. -/
  id : String
  deriving DecidableEq, Repr

namespace Registry

/-- All identifiers with their tools. -/
def entries : List Entry :=
  [⟨"apilinter", .check, .apiLinter, none⟩,
   ⟨"eslint", .check, .eslint, none⟩,
   ⟨"flake8", .check, .flake8, none⟩,
   ⟨"black", .format, .black, none⟩,
   ⟨"gofmt", .format, .gofmt, none⟩,
   ⟨"prettier", .format, .prettier, none⟩,
   ⟨"swift_format_lockwood", .format, .swiftFormat, none⟩,
   ⟨"swiftformat", .format, .swiftFormat, some "swift_format_lockwood"⟩]

/-- All identifiers. -/
def ids : List String := entries.map Entry.id

/-- The entry for an identifier. -/
def get? (id : String) : Option Entry :=
  entries.find? (·.id = id)

/-- The entry for an identifier, or the text that is none. -/
def resolve (id : String) : Except UnknownTool Entry :=
  match get? id with
  | some entry => .ok entry
  | none => .error ⟨id⟩

/-- The entries for identifiers, those that check in front of those that format. Identifiers of one
category keep their order. -/
def plan (ids : List String) : Except UnknownTool (List Entry) := do
  let entries ← ids.mapM resolve
  return entries.mergeSort fun a b => a.category.rank ≤ b.category.rank

end Registry

/-- The wording for a text that is no identifier. -/
def UnknownTool.message (e : UnknownTool) : String :=
  "unknown adapter " ++ Text.quoted e.id ++ " (available: " ++ ", ".intercalate Registry.ids ++ ")"

/-- An entry as it is shown to developers. -/
def Entry.describe (entry : Entry) : String :=
  let category :=
    match entry.category with
    | .check => "Check"
    | .format => "Format"
  let aliasOf :=
    match entry.aliasOf? with
    | some id => "Some(" ++ Text.quoted id ++ ")"
    | none => "None"
  "RegistryEntry \x7b id: " ++ Text.quoted entry.id ++ ", category: " ++ category ++
    ", adapter: " ++ Text.quoted entry.tool.name ++ ", alias_of: " ++ aliasOf ++ " \x7d"

end LintRun
