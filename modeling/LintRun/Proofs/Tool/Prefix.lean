import LintRun.Proofs.Command.Parts
import LintRun.Proofs.Tool.Calls

/-!
# Prefixes of commands

The prefix from the settings stands in front of every command of a tool, with one blank behind it.
It changes nothing else of a command, and no other command is run because of it.

## Main statements

* `Tool.command_eq` and `Tool.probe_eq`: commands with a prefix and without one.
* `Tool.calls_behind_prefix`: what a prefix does to the calls of a tool.
-/

namespace LintRun

/-- The call of the same command behind a prefix. -/
def Call.behind (front : String) (c : Call) : Call :=
  { c with command := Command.behind front c.command }

namespace Tool

theorem build_commandParts_ne (tool : Tool) (settings : CommandSettings) (files : List String) :
    Command.build (tool.commandParts settings files) ≠ "" := by
  rw [ne_eq, Command.build_eq_empty_iff]
  intro hblank
  -- The first part names the tool, or what starts it.
  cases tool <;> exact absurd (hblank _ List.mem_cons_self) (by decide +kernel)

/-- A command is the one without a prefix, behind the prefix. -/
theorem command_eq (tool : Tool) (settings : CommandSettings) (files : List String) :
    tool.command settings files = Command.behind settings.commandPrefix
      (tool.command { settings with commandPrefix := "" } files) := by
  have hne := tool.build_commandParts_ne settings files
  have hparts : tool.commandParts { settings with commandPrefix := "" } files =
      tool.commandParts settings files := by
    cases tool <;> rfl
  rw [command, command, hparts, Command.build_cons hne, Command.build_cons hne,
    Command.behind_empty]

theorem probe_eq (tool : Tool) (commandPrefix : String) :
    tool.probe commandPrefix = Command.behind commandPrefix (tool.probe "") := by
  have hne : Command.build [tool.versionCommand] ≠ "" := by
    rw [ne_eq, Command.build_eq_empty_iff, List.forall_mem_singleton]
    cases tool <;> decide +kernel
  rw [probe, probe, Command.build_cons hne, Command.build_cons hne, Command.behind_empty]

/-! ## Calls -/

theorem calls_lint_eq (tool : Tool) (settings : JobSettings) {σ : Type} (world : World σ) (s : σ) :
    (tool.lint settings).run.calls world s =
      ((tool.lint { settings with commandPrefix := "" }).run.calls world s).map
        (Call.behind settings.commandPrefix) := by
  rw [calls_lint, calls_lint, List.map_map]
  refine List.map_congr_left fun files _ => ?_
  rw [tool.command_eq, Function.comp_apply, Call.behind]

theorem calls_verify_eq (tool : Tool) (dir : Path) (commandPrefix : String) {σ : Type}
    (world : World σ) (s : σ) :
    (tool.verify dir commandPrefix).run.calls world s =
      ((tool.verify dir "").run.calls world s).map (Call.behind commandPrefix) := by
  rw [calls_verify, calls_verify, tool.probe_eq]
  cases (world.lookUp tool.executable s).1 with
  | false => rw [if_neg Bool.false_ne_true, if_neg Bool.false_ne_true, List.map_nil]
  | true => rw [if_pos rfl, if_pos rfl, List.map_singleton, Call.behind]

/-- Parts can be built in groups to a command, which is trimmed, and empty only if all of its parts
are blank. So a prefix that is not blank stands in front of the command and of the probe of every
tool, trimmed and with one blank behind it, and a blank prefix is none. This is all that a prefix
does to the calls, whatever files there are and whatever the answers are. -/
theorem calls_behind_prefix :
    (∀ parts parts' : List String,
      Command.build (parts ++ parts') = Command.build [Command.build parts, Command.build parts']) ∧
    (∀ parts : List String,
      (∀ c, (Command.build parts).toList.head? = some c → Text.isBlank c = false) ∧
      (∀ c, (Command.build parts).toList.getLast? = some c → Text.isBlank c = false) ∧
      (Command.build parts = "" ↔ ∀ part ∈ parts, Text.isBlankText part)) ∧
    ∀ (tool : Tool) (settings : JobSettings),
      (∀ files, tool.command settings.toCommandSettings files =
        Command.behind settings.commandPrefix
          (tool.command { settings.toCommandSettings with commandPrefix := "" } files)) ∧
      tool.probe settings.commandPrefix =
        Command.behind settings.commandPrefix (tool.probe "") ∧
      ∀ {σ : Type} (world : World σ) (s : σ),
        (tool.lint settings).run.calls world s =
          ((tool.lint { settings with commandPrefix := "" }).run.calls world s).map
            (Call.behind settings.commandPrefix) ∧
        (tool.verify settings.dir settings.commandPrefix).run.calls world s =
          ((tool.verify settings.dir "").run.calls world s).map
            (Call.behind settings.commandPrefix) := by
  refine ⟨Command.build_append, fun parts => ?_, fun tool settings => ?_⟩
  · have hends := Command.trim_build parts
    rw [Text.trim_eq_self_iff, Text.strip_eq_self_iff] at hends
    exact ⟨hends.1, hends.2, Command.build_eq_empty_iff⟩
  · refine ⟨tool.command_eq settings.toCommandSettings, tool.probe_eq settings.commandPrefix,
      fun world s => ⟨tool.calls_lint_eq settings world s, ?_⟩⟩
    exact tool.calls_verify_eq settings.dir settings.commandPrefix world s

/-- A prefix with blanks around it gets to the probe of a tool, which is that of another executable,
and to a command with files. Blanks alone change nothing. -/
theorem calls_behind_prefix_docker :
    let front := "\u00a0docker exec ci\t"
    let settings (tool : Tool) (commandPrefix : String) : JobSettings :=
      { JobSettings.default tool ⟨"."⟩ with commandPrefix }
    let world : World Unit :=
      { lookUp := fun _ => pure true
        call := fun _ => pure (.ok .empty)
        listFiles := fun _ => pure (.ok ["a.proto", "b c.proto"])
        canonical := fun _ => pure none }
    (gofmt.verify ⟨"."⟩ front).run.calls world () =
      [⟨"docker exec ci go version", ⟨"."⟩, false⟩] ∧
    (gofmt.lint (settings gofmt front)).run.calls world () =
      [⟨"docker exec ci gofmt -l -d \".\"", ⟨"."⟩, true⟩] ∧
    (apiLinter.lint (settings apiLinter front)).run.calls world () =
      [⟨"docker exec ci api-linter \"a.proto\" \"b c.proto\"", ⟨"."⟩, true⟩] ∧
    (apiLinter.lint (settings apiLinter " ")).run.calls world () =
      [⟨"api-linter \"a.proto\" \"b c.proto\"", ⟨"."⟩, true⟩] := by
  intro front settings world
  obtain ⟨-, -, hbehind⟩ := calls_behind_prefix
  obtain ⟨-, -, hgofmt⟩ := hbehind gofmt (settings gofmt front)
  obtain ⟨-, -, hfiles⟩ := hbehind apiLinter (settings apiLinter front)
  obtain ⟨-, -, hblank⟩ := hbehind apiLinter (settings apiLinter " ")
  refine ⟨(hgofmt world ()).2.trans ?_, (hgofmt world ()).1.trans ?_,
    (hfiles world ()).1.trans ?_, (hblank world ()).1.trans ?_⟩
  all_goals decide +kernel

end Tool

end LintRun
