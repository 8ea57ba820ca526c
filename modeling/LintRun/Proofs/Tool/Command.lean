import LintRun.Proofs.Command
import LintRun.Proofs.Config.Validation
import LintRun.Proofs.Run.Protocol

/-!
# The words of the commands of tools

What a tool is given when it lints: the words that the shell makes of its command. Patterns and
expressions are quoted, and reach the tool as they are. Extensions in a list are not quoted, and
reach the tool as they are only if the shell takes all their characters for themselves.

## Main definitions

* `Tool.RunsWith` says that a tool lints by running one command with some words.

## Main statements

* `Tool.runsWith_quoted`: the words for the tools that are given quoted texts.
* `Tool.runsWith_list_iff`: the words for the tool that is given a list of extensions.
-/

namespace LintRun.Tool

open Shell

variable {tool : Tool} {settings : JobSettings}

/-- A tool lints by running one command, and the shell makes the words of it. -/
def RunsWith (tool : Tool) (settings : JobSettings) (words : List String) : Prop :=
  ∃ command, tool.lint settings = tool.runCommand settings.dir command ∧
    splitWords? command = some words

theorem runCommand_injective (tool : Tool) (dir : Path) :
    Function.Injective (tool.runCommand dir) := by
  intro command command' h
  injection h with hnotice
  injection hnotice

theorem runsWith_iff (h : tool ≠ .apiLinter) {words : List String} :
    tool.RunsWith settings words ↔
      splitWords? (tool.command settings.toCommandSettings []) = some words := by
  constructor
  · rintro ⟨command, hlint, hwords⟩
    rw [lint_of_ne h] at hlint
    rwa [runCommand_injective tool _ hlint]
  · exact fun hwords => ⟨_, lint_of_ne h, hwords⟩

/-- The words of a command without a prefix are those of its parts. -/
theorem runsWith_of_parts (htool : tool ≠ .apiLinter)
    (hblank : Text.isBlankText settings.commandPrefix) {words : List (List String)}
    (h : List.Forall₂ Command.FallsInto (tool.commandParts settings.toCommandSettings []) words) :
    tool.RunsWith settings words.flatten := by
  have hbuild := Command.splitWords?_build (.cons (Command.fallsInto_of_isBlankText hblank) h)
  rw [List.flatten_cons, List.nil_append] at hbuild
  exact (runsWith_iff htool).2 hbuild

/-! ## Quoted texts -/

section Quoted

variable (hblank : Text.isBlankText settings.commandPrefix)
  (harguments : Text.isBlankText settings.arguments)

include hblank harguments

theorem runsWith_pattern :
    flake8.RunsWith settings
      ["flake8", "--filename", Extension.pattern settings.extensions, "."] := by
  have hparts : List.Forall₂ Command.FallsInto
      (flake8.commandParts settings.toCommandSettings [])
      [["flake8"], ["--filename", Extension.pattern settings.extensions], [], ["."]] := by
    have hfilename : splitWords? "--filename" = some ["--filename"] := rfl
    refine .cons rfl (.cons ?_ (.cons ?_ (.cons rfl .nil)))
    · exact Command.fallsInto_option hfilename rfl (by decide) _
    · exact Command.fallsInto_of_isBlankText harguments
  exact runsWith_of_parts (by decide) hblank hparts

theorem runsWith_glob :
    prettier.RunsWith settings
      ["npx", "--no-install", "prettier", "--no-color",
        if settings.fix then "--write" else "--list-different",
        Extension.glob settings.extensions] := by
  have hparts : List.Forall₂ Command.FallsInto
      (prettier.commandParts settings.toCommandSettings [])
      [["npx", "--no-install", "prettier", "--no-color"],
        [if settings.fix then "--write" else "--list-different"], [],
        [Extension.glob settings.extensions]] := by
    refine .cons rfl (.cons ?_ (.cons ?_ (.cons ?_ .nil)))
    · cases settings.fix <;> rfl
    · exact Command.fallsInto_of_isBlankText harguments
    · exact Command.fallsInto_quote _
  exact runsWith_of_parts (by decide) hblank hparts

theorem runsWith_regex :
    black.RunsWith settings
      (["black"] ++ (if settings.fix then [] else ["--check", "--diff"]) ++
        ["--include", Extension.regex settings.extensions, "."]) := by
  have hparts : List.Forall₂ Command.FallsInto
      (black.commandParts settings.toCommandSettings [])
      [["black"], if settings.fix then [] else ["--check", "--diff"],
        ["--include", Extension.regex settings.extensions], [], ["."]] := by
    have hinclude : splitWords? "--include" = some ["--include"] := rfl
    refine .cons rfl (.cons ?_ (.cons ?_ (.cons ?_ (.cons rfl .nil))))
    · cases settings.fix <;> rfl
    · exact Command.fallsInto_option hinclude rfl (by decide) _
    · exact Command.fallsInto_of_isBlankText harguments
  have hruns := runsWith_of_parts (by decide) hblank hparts
  simpa using hruns

end Quoted

/-- The tools that are given quoted texts run with these texts, whatever the extensions are. Fixing
changes nothing but the words for the mode. -/
theorem runsWith_quoted (hne : settings.extensions ≠ [])
    (hblank : Text.isBlankText settings.commandPrefix)
    (harguments : Text.isBlankText settings.arguments) :
    flake8.RunsWith settings ["flake8", "--filename",
      ",".intercalate (settings.extensions.map fun e => "*." ++ Extension.bare e), "."] ∧
    (∃ glob, prettier.RunsWith settings ["npx", "--no-install", "prettier", "--no-color",
        if settings.fix then "--write" else "--list-different", glob] ∧
      (∀ e, settings.extensions = [e] → glob = "**/*." ++ Extension.bare e) ∧
      (1 < settings.extensions.length → glob =
        "**/*.\x7b" ++ ",".intercalate (settings.extensions.map Extension.bare) ++ "\x7d")) ∧
    ∃ alternatives : String, black.RunsWith settings
        (["black"] ++ (if settings.fix then [] else ["--check", "--diff"]) ++
          ["--include", "^.*\\.(" ++ alternatives ++ ")$", "."]) ∧
      Extension.alternatives alternatives.toList =
        (settings.extensions.map Extension.bare).map String.toList := by
  have hregex : Extension.regex settings.extensions = "^.*\\.(" ++
      "|".intercalate ((settings.extensions.map Extension.bare).map Extension.literal) ++ ")$" := by
    rw [Extension.regex, List.map_map]
    rfl
  refine ⟨runsWith_pattern hblank harguments, ⟨Extension.glob settings.extensions,
    runsWith_glob hblank harguments, ?_, ?_⟩, _, hregex ▸ runsWith_regex hblank harguments, ?_⟩
  · intro e he
    rw [he, Extension.glob]
  · intro hlength
    rcases hextensions : settings.extensions with _ | ⟨first, _ | ⟨second, more⟩⟩
    · exact absurd hextensions hne
    · simp [hextensions] at hlength
    · rfl
  · exact Extension.alternatives_intercalate_literal (by simpa using hne)

/-- Characters with a meaning of their own reach the tools as they are. -/
theorem runsWith_quoted_meta :
    let settings : JobSettings :=
      { extensions := [".py", "a|b\"$c\\ \n"], arguments := "", fix := false, commandPrefix := " ",
        dir := ⟨"."⟩ }
    flake8.RunsWith settings ["flake8", "--filename", "*.py,*.a|b\"$c\\ \n", "."] ∧
      prettier.RunsWith settings ["npx", "--no-install", "prettier", "--no-color",
        "--list-different", "**/*.\x7bpy,a|b\"$c\\ \n\x7d"] ∧
      ∃ alternatives : String, black.RunsWith settings
          ["black", "--check", "--diff", "--include", "^.*\\.(" ++ alternatives ++ ")$", "."] ∧
        Extension.alternatives alternatives.toList = ["py".toList, "a|b\"$c\\ \n".toList] := by
  intro settings
  have hblank : Text.isBlankText settings.commandPrefix := by decide +kernel
  have harguments : Text.isBlankText settings.arguments := rfl
  obtain ⟨hflake8, ⟨glob, hprettier, -, hglob⟩, hblack⟩ :=
    runsWith_quoted (List.cons_ne_nil _ _) hblank harguments
  obtain rfl := hglob (by decide)
  exact ⟨hflake8, hprettier, hblack⟩

/-! ## Lists of extensions -/

section Listed

variable (hne : settings.extensions ≠ []) (hblank : Text.isBlankText settings.commandPrefix)
  (harguments : Text.isBlankText settings.arguments)

include hne hblank harguments

/-- The list of extensions stands in the command as it is, but for blanks at its end. -/
theorem splitWords?_list :
    splitWords? (eslint.command settings.toCommandSettings []) =
      (splitWords? (Text.trimEnd (Extension.dotted settings.extensions) ++ " \".\"")).map
        (["npx", "--no-install", "eslint", "--no-color", "--format", "json"] ++
          (if settings.fix then ["--fix"] else []) ++ ["--ext"] ++ ·) := by
  have hnpx : Command.FallsInto "npx --no-install eslint --no-color --format json"
      ["npx", "--no-install", "eslint", "--no-color", "--format", "json"] := rfl
  have hfix : Command.FallsInto (if settings.fix then "--fix" else "")
      (if settings.fix then ["--fix"] else []) := by
    cases settings.fix <;> rfl
  have hext : splitWords? "--ext" = some ["--ext"] := rfl
  have hlist : Text.trim ("--ext " ++ Extension.dotted settings.extensions) =
      "--ext" ++ " " ++ Text.trimEnd (Extension.dotted settings.extensions) :=
    Text.trim_append rfl (by decide) (List.mem_of_head? (Extension.head?_dotted hne)) (by decide)
  -- The directory follows the list, since nothing is left of the arguments.
  have hrest : Command.build ["--ext " ++ Extension.dotted settings.extensions,
        settings.arguments, here] =
      "--ext" ++ " " ++ (Text.trimEnd (Extension.dotted settings.extensions) ++ " \".\"") := by
    have hhere : Text.trim here = "\".\"" := rfl
    simp [Command.build, hlist, Text.trim_of_isBlankText harguments, hhere,
      String.intercalate_cons_cons, String.append_assoc]
  have hcommand : eslint.command settings.toCommandSettings [] =
      Command.build (settings.commandPrefix ::
        "npx --no-install eslint --no-color --format json" ::
        (if settings.fix then "--fix" else "") ::
        ["--ext " ++ Extension.dotted settings.extensions, settings.arguments, here]) := rfl
  rw [hcommand, Command.splitWords?_build_cons (Command.fallsInto_of_isBlankText hblank),
    Command.splitWords?_build_cons hnpx, Command.splitWords?_build_cons hfix, hrest,
    splitWords?_append_blank hext]
  simp only [Option.map_map, Function.comp_def, List.nil_append, List.append_assoc]

/-- The list of extensions reaches the tool as it is exactly if all its characters are inert, and
no blank stands at its end. -/
theorem runsWith_dotted_iff :
    eslint.RunsWith settings
        (["npx", "--no-install", "eslint", "--no-color", "--format", "json"] ++
          (if settings.fix then ["--fix"] else []) ++ ["--ext"] ++
          [Extension.dotted settings.extensions, "."]) ↔
      (∀ e ∈ settings.extensions, isInertText e) ∧
        ∀ e, settings.extensions.getLast? = some e → Text.trimEnd e = e := by
  have hcut : (Text.trimEnd (Extension.dotted settings.extensions)).toList <+:
      (Extension.dotted settings.extensions).toList := by
    rw [Text.trimEnd, String.toList_ofList]
    exact Text.dropBlankEnd_prefix _
  have hinert : isInertText (Extension.dotted settings.extensions) ↔
      ∀ e ∈ settings.extensions, isInertText e := by
    simp only [isInertText, List.all_eq_true]
    exact Extension.forall_mem_dotted_iff (by decide) (by decide)
  have hlast : Text.trimEnd (Extension.dotted settings.extensions) =
        Extension.dotted settings.extensions ↔
      ∀ e, settings.extensions.getLast? = some e → Text.trimEnd e = e := by
    obtain ⟨front, last, hextensions⟩ := (List.eq_nil_or_concat' _).resolve_left hne
    rw [hextensions, Extension.trimEnd_dotted_eq_self_iff, List.getLast?_concat]
    simp
  rw [runsWith_iff (by decide), splitWords?_list hne hblank harguments]
  -- The words in front of the list are on both sides.
  simp only [Option.map_eq_some_iff, List.append_cancel_left_eq, exists_eq_right]
  rw [splitWords?_append_quoted_dot_iff hcut (Extension.head?_dotted hne) (by decide), hinert,
    hlast, and_comm]

end Listed

/-- What settings without mistakes say about the extensions reaches the tool as it is, in one word,
exactly if the characters of all extensions are inert, and no blank stands at the end of the last
one. -/
theorem runsWith_list_iff {config : Config} {id : String} {toolConfig : ToolConfig}
    (hvalid : config.validate = .ok ()) (hentry : (id, toolConfig) ∈ config.tools.entries)
    (hextensions : toolConfig.extensions? = some settings.extensions)
    (hblank : Text.isBlankText settings.commandPrefix)
    (harguments : Text.isBlankText settings.arguments) :
    eslint.RunsWith settings
        (["npx", "--no-install", "eslint", "--no-color", "--format", "json"] ++
          (if settings.fix then ["--fix"] else []) ++ ["--ext"] ++
          [",".intercalate (settings.extensions.map fun e => "." ++ Extension.bare e), "."]) ↔
      (∀ e ∈ settings.extensions, isInertText e) ∧
        ∀ e, settings.extensions.getLast? = some e → Text.trimEnd e = e := by
  have htool := Config.validate_eq_ok_iff.1 hvalid _ hentry
  have hlist := (Config.validateTool_eq_ok_iff.1 htool).2.1 _ hextensions
  have hne := (Config.validateExtensions_eq_ok_iff.1 hlist).1
  exact runsWith_dotted_iff hne hblank harguments

/-- Dots in front of an extension do not matter. -/
theorem runsWith_list_js_ts :
    let toolConfig : ToolConfig := { extensions? := some ["js", "..ts"] }
    let config : Config := { tools := Table.empty.set "eslint" toolConfig }
    let settings : JobSettings :=
      { extensions := ["js", "..ts"], arguments := " ", fix := true, commandPrefix := "",
        dir := ⟨"."⟩ }
    config.validate = .ok () ∧
      eslint.RunsWith settings ["npx", "--no-install", "eslint", "--no-color", "--format", "json",
        "--fix", "--ext", ".js,.ts", "."] := by
  intro toolConfig config settings
  have hvalid : config.validate = .ok () := rfl
  have hentry : ("eslint", toolConfig) ∈ config.tools.entries := .head _
  have hinert : ∀ e ∈ settings.extensions, isInertText e := by decide +kernel
  have hlast : ∀ e, settings.extensions.getLast? = some e → Text.trimEnd e = e := by
    intro e he
    obtain rfl : "..ts" = e := Option.some_inj.1 he
    rfl
  have harguments : Text.isBlankText settings.arguments := by decide +kernel
  exact ⟨hvalid, (runsWith_list_iff hvalid hentry rfl rfl harguments).2 ⟨hinert, hlast⟩⟩

/-- An extension without mistakes may hold an option, with which a tool that is not to change files
changes them. -/
theorem exists_runsWith_fix :
    let toolConfig : ToolConfig := { extensions? := some ["js --fix"] }
    let config : Config := { tools := Table.empty.set "eslint" toolConfig }
    let settings : JobSettings :=
      { extensions := ["js --fix"], arguments := "", fix := false, commandPrefix := "",
        dir := ⟨"."⟩ }
    config.validate = .ok () ∧
      eslint.RunsWith settings ["npx", "--no-install", "eslint", "--no-color", "--format", "json",
        "--ext", ".js", "--fix", "."] ∧
      ¬ eslint.RunsWith settings ["npx", "--no-install", "eslint", "--no-color", "--format", "json",
        "--ext", ".js --fix", "."] := by
  intro toolConfig config settings
  have hwords : splitWords? (eslint.command settings.toCommandSettings []) =
      some ["npx", "--no-install", "eslint", "--no-color", "--format", "json",
        "--ext", ".js", "--fix", "."] := by decide +kernel
  refine ⟨rfl, (runsWith_iff (by decide)).2 hwords, ?_⟩
  rw [runsWith_iff (by decide), hwords]
  decide

end LintRun.Tool
