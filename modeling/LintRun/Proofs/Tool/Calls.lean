import LintRun.Proofs.Run.Protocol

/-!
# The calls of tools

A tool makes one call when it is tried out and one when it is run. There is none if the executable
is missing, or if there are no files for a tool that has to be given some.

## Main definitions

* `Dialogue.calls` are the calls in a world.
* `Tool.fileLists` are the lists of files with which a tool is run.

## Main statements

* `Tool.calls_lint` and `Tool.calls_verify`: the calls of a tool.
-/

namespace LintRun

/-- The call that an event is. -/
def Event.call? : Event → Option Call
  | .call c => some c
  | _ => none

/-- The calls of a conversation with a world that begins in a state. -/
def Dialogue.calls {α σ : Type} (world : World σ) (dialogue : Dialogue α) (s : σ) : List Call :=
  (dialogue.run world s).events.filterMap Event.call?

theorem Dialogue.mem_calls_iff {α σ : Type} {world : World σ} {dialogue : Dialogue α} {s : σ}
    {c : Call} : c ∈ dialogue.calls world s ↔ .call c ∈ (dialogue.run world s).events := by
  rw [calls, List.mem_filterMap]
  constructor
  · rintro ⟨event, hmem, hcall⟩
    cases event with
    | call c' =>
      obtain rfl : c' = c := Option.some_inj.1 hcall
      exact hmem
    | _ => cases hcall
  · exact fun hmem => ⟨_, hmem, rfl⟩

/-- The lists of files with which a tool is run. A tool that has to be given files is not run
without any; the others are given none. -/
def Tool.fileLists (tool : Tool) (answer : Except Failure (List String)) : List (List String) :=
  match tool, answer with
  | apiLinter, .ok files => if files = [] then [] else [files]
  | apiLinter, .error _ => []
  | _, _ => [[]]

namespace Tool

variable {tool : Tool} {dir : Path} {σ : Type}

theorem calls_of_runCommand {command : String} {log : List Exchange}
    {result : Except Failure RawOutput} (h : (tool.runCommand dir command).EndsWith log result) :
    (log.filterMap Exchange.event?).filterMap Event.call? = [⟨command, dir, true⟩] := by
  obtain ⟨answer, rest, rfl, -, hrest⟩ := endsWith_runCommand h
  cases answer with
  | error failure =>
    subst hrest
    rfl
  | ok output =>
    subst hrest
    rfl

/-- A tool is run once for each list of files. -/
theorem calls_lint (tool : Tool) (settings : JobSettings) (world : World σ) (s : σ) :
    (tool.lint settings).run.calls world s =
      (tool.fileLists (world.listFiles settings.dir s).1).map fun files =>
        ⟨tool.command settings.toCommandSettings files, settings.dir, true⟩ := by
  have hends := Dialogue.endsWith_exchanges world (tool.lint settings).run s
  rw [Dialogue.calls, Dialogue.events_run]
  by_cases htool : tool = apiLinter
  · subst htool
    obtain ⟨answer, rest, hlog, hrest⟩ := endsWith_lint_of_eq rfl hends
    have hanswer : (world.listFiles settings.dir s).1 = answer := by
      cases hlog
      rfl
    rw [hlog, hanswer]
    cases answer with
    | error failure =>
      obtain ⟨rfl, -⟩ := hrest
      rfl
    | ok files =>
      obtain ⟨rest', rfl, hrest'⟩ := hrest
      by_cases hfiles : files = []
      · rw [if_pos hfiles] at hrest'
        obtain ⟨rfl, -⟩ := hrest'
        rw [fileLists, if_pos hfiles]
        rfl
      · rw [if_neg hfiles] at hrest'
        have hcalls := calls_of_runCommand hrest'
        rw [fileLists, if_neg hfiles]
        exact hcalls
  · have hlists : tool.fileLists (world.listFiles settings.dir s).1 = [[]] := by
      cases tool with
      | apiLinter => exact absurd rfl htool
      | _ => rfl
    rw [hlists]
    rw [lint_of_ne htool] at hends ⊢
    exact calls_of_runCommand hends

/-- The probe is run if the executable is there. -/
theorem calls_verify (tool : Tool) (dir : Path) (commandPrefix : String) (world : World σ)
    (s : σ) : (tool.verify dir commandPrefix).run.calls world s =
      if (world.lookUp tool.executable s).1 then [⟨tool.probe commandPrefix, dir, false⟩]
      else [] := by
  obtain ⟨answer, rest, hlog, hrest⟩ := endsWith_verify
    (Dialogue.endsWith_exchanges world (tool.verify dir commandPrefix).run s)
  have hanswer : (world.lookUp tool.executable s).1 = answer := by
    cases hlog
    rfl
  rw [Dialogue.calls, Dialogue.events_run, hlog, hanswer]
  cases answer with
  | false =>
    obtain ⟨reason, rfl, -⟩ := hrest
    rfl
  | true =>
    obtain ⟨answer', rest', rfl, hanswer'⟩ := hrest
    cases answer' with
    | error failure =>
      obtain ⟨reason, rfl, -⟩ := hanswer'
      rfl
    | ok output =>
      obtain ⟨rfl, -⟩ := hanswer'
      rfl

end Tool

end LintRun
