import LintRun.Proofs.Except
import LintRun.Tool.Output
import Mathlib.Data.List.Forall2

/-!
# Findings in reports

A report lists files, and for every file what is wrong with it. The result has one finding for each
entry, in the order of the report. The entries of one kind of report are of two severities, so that
they go into two lists, each of which keeps the order.

## Main definitions

* `Finding.IsAbout` says what a finding holds.
* `ScriptReport.HasMessages` and `InterfaceReport.HasProblems` say that a result has the entries of
  a report.

## Main statements

* `HasMessages.push`, `HasMessages.addTo` and `HasMessages.foldl_addTo`: a message, a file and a
  list of files are added to a result.
* `Tool.result_flattens`: what is read from an output that is a report.
-/

namespace LintRun

/-! ## Findings -/

/-- A finding is on some lines of a file. Lines that are missing or in the wrong order are moved. -/
structure Finding.IsAbout (finding : Finding) (path : String) (first last : Nat)
    (message : String) : Prop where
  path_eq : finding.path = path
  firstLine_eq : finding.firstLine = max 1 first
  lastLine_eq : finding.lastLine = max finding.firstLine last
  message_eq : finding.message = message

theorem Finding.isAbout_spanning (path : String) (first last : Nat) (message : String) :
    (spanning path first last message).IsAbout path first last message where
  path_eq := rfl
  firstLine_eq := Nat.max_comm first 1
  lastLine_eq := Nat.max_comm last _
  message_eq := rfl

/-! ## Reports on scripts -/

namespace ScriptReport

/-- The text of a message, with the rule in parentheses behind it if there is one. -/
def Message.wording (message : Message) : String :=
  message.rule?.elim message.text fun rule => message.text ++ " (" ++ rule ++ ")"

/-- The last line of a message, which is the first if it is missing. -/
def Message.lastLine (message : Message) : Nat :=
  message.endLine?.getD message.line

/-- A finding is about a message. The message is placed in the file with the given path. -/
def IsFor (dir : Directory) (placed : String × Message) (finding : Finding) : Prop :=
  finding.IsAbout (dir.relative placed.1) placed.2.line placed.2.lastLine placed.2.wording

theorem isFor_finding (dir : Directory) (path : String) (message : Message) :
    IsFor dir (path, message) (message.finding (dir.relative path)) := by
  obtain ⟨rule?, text, line, endLine?, severity⟩ := message
  cases rule? with
  | none => exact Finding.isAbout_spanning _ _ _ _
  | some rule => exact Finding.isAbout_spanning _ _ _ _

/-- The messages in a file, each with the path of the file. -/
def File.placed (file : File) : List (String × Message) :=
  file.messages.map fun message => (file.path, message)

/-- A result has the messages, those with the number for warnings among the warnings and all others
among the errors. -/
structure HasMessages (dir : Directory) (placed : List (String × Message)) (result : LintResult) :
    Prop where
  warning : List.Forall₂ (IsFor dir)
    (placed.filter fun placed => placed.2.severity = 1) result.warning
  error : List.Forall₂ (IsFor dir)
    (placed.filter fun placed => placed.2.severity ≠ 1) result.error

namespace HasMessages

variable {dir : Directory} {placed : List (String × Message)} {result : LintResult}

theorem empty (dir : Directory) : HasMessages dir [] LintResult.empty :=
  ⟨.nil, .nil⟩

/-- A message goes behind those that are there. -/
theorem push (h : HasMessages dir placed result) (path : String) (message : Message) :
    HasMessages dir (placed ++ [(path, message)])
      (result.push message.level (message.finding (dir.relative path))) := by
  have hlast : List.Forall₂ (IsFor dir) [(path, message)]
      [message.finding (dir.relative path)] := .cons (isFor_finding dir path message) .nil
  by_cases hseverity : message.severity = 1
  · have hlevel : message.level = .warning := if_pos hseverity
    rw [hlevel]
    constructor
    · simpa [hseverity, LintResult.push] using List.rel_append h.warning hlast
    · simpa [hseverity, LintResult.push] using h.error
  · have hlevel : message.level = .error := if_neg hseverity
    rw [hlevel]
    constructor
    · simpa [hseverity, LintResult.push] using h.warning
    · simpa [hseverity, LintResult.push] using List.rel_append h.error hlast

theorem addTo (h : HasMessages dir placed result) (file : File) :
    HasMessages dir (placed ++ file.placed) (file.addTo dir result) := by
  obtain ⟨path, messages⟩ := file
  rw [File.placed, File.addTo]
  dsimp only
  induction messages generalizing placed result with
  | nil => simpa using h
  | cons message messages ih =>
    rw [List.map_cons, List.append_cons, List.foldl_cons]
    exact ih (h.push path message)

theorem foldl_addTo (h : HasMessages dir placed result) (files : List File) :
    HasMessages dir (placed ++ files.flatMap File.placed)
      (files.foldl (File.addTo dir) result) := by
  induction files generalizing placed result with
  | nil => simpa using h
  | cons file files ih =>
    rw [List.flatMap_cons, ← List.append_assoc, List.foldl_cons]
    exact ih (h.addTo file)

/-- No message is lost and none is there twice. -/
theorem findingCount_eq (h : HasMessages dir placed result) :
    result.findingCount = placed.length := by
  rw [LintResult.findingCount, ← h.warning.length_eq, ← h.error.length_eq]
  simpa using (List.length_eq_length_filter_add (l := placed) fun placed =>
    decide (placed.2.severity = 1)).symm

end HasMessages

/-- Whether the tool was content does not matter to the findings. -/
theorem hasMessages_result (dir : Directory) (isSuccess : Bool) (files : List File) :
    HasMessages dir (files.flatMap File.placed) (result dir isSuccess files) := by
  obtain ⟨hwarning, herror⟩ := (HasMessages.empty dir).foldl_addTo files
  exact ⟨hwarning, herror⟩

end ScriptReport

/-! ## Reports on interface definitions -/

namespace InterfaceReport

/-- A finding is about a problem. The problem is placed in the file with the given path, which the
finding has as it is. -/
def IsFor (placed : String × Problem) (finding : Finding) : Prop :=
  finding.IsAbout placed.1 placed.2.firstLine placed.2.lastLine placed.2.text

/-- The problems in a file, each with the path of the file. -/
def File.placed (file : File) : List (String × Problem) :=
  file.problems.map fun problem => (file.path, problem)

/-- A result has the problems, all of them among the errors. -/
structure HasProblems (placed : List (String × Problem)) (result : LintResult) : Prop where
  warning : result.warning = []
  error : List.Forall₂ IsFor placed result.error

theorem HasProblems.findingCount_eq {placed : List (String × Problem)} {result : LintResult}
    (h : HasProblems placed result) : result.findingCount = placed.length := by
  rw [LintResult.findingCount, h.warning, ← h.error.length_eq]
  exact Nat.zero_add _

theorem forall₂_findings (file : File) : List.Forall₂ IsFor file.placed file.findings := by
  rw [File.placed, File.findings, List.forall₂_map_left_iff, List.forall₂_map_right_iff,
    List.forall₂_same]
  exact fun problem _ => Finding.isAbout_spanning _ _ _ _

theorem hasProblems_result (succeeded : Bool) (files : List File) :
    HasProblems (files.flatMap File.placed) (result succeeded files) := by
  refine ⟨rfl, ?_⟩
  change List.Forall₂ IsFor (files.flatMap File.placed) (files.flatMap File.findings)
  induction files with
  | nil => exact .nil
  | cons file files ih => exact List.rel_append (forall₂_findings file) ih

end InterfaceReport

/-! ## Outputs -/

theorem Document.orFailure_eq_ok_iff {α : Type} {tool : String} {document? : Option α}
    {document : α} : orFailure tool document? = .ok document ↔ document? = some document := by
  cases document? <;> simp [orFailure]

namespace Tool

variable {dir : Directory} {output : RawOutput} {found : LintResult}

theorem result_eslint_eq_ok_iff : eslint.result dir output = .ok found ↔
    ∃ files, Document.json? ScriptReport.read [] output.stdout = some files ∧
      ScriptReport.result dir output.succeeded files = found := by
  rw [result, bind_eq_ok_iff]
  simp only [Document.orFailure_eq_ok_iff]
  exact exists_congr fun files => and_congr_right fun _ => (Except.ok.injEq _ _).to_iff

theorem result_apiLinter_eq_ok_iff : apiLinter.result dir output = .ok found ↔
    ∃ files, Document.yaml? InterfaceReport.read [] output.stdout = some files ∧
      InterfaceReport.result output.succeeded files = found := by
  rw [result, bind_eq_ok_iff]
  simp only [Document.orFailure_eq_ok_iff]
  exact exists_congr fun files => and_congr_right fun _ => (Except.ok.injEq _ _).to_iff

/-- What is read from an output that is a report has one finding for each entry of the report. It is
on the lines of the entry in the file of the entry, and it stands in the list for the severity of
the entry, in the order of the report. -/
theorem result_flattens (dir : Directory) (output : RawOutput) :
    (∀ found, eslint.result dir output = .ok found ↔
      ∃ files, Document.json? ScriptReport.read [] output.stdout = some files ∧
        ScriptReport.result dir output.succeeded files = found) ∧
    (∀ files, ScriptReport.HasMessages dir (files.flatMap ScriptReport.File.placed)
        (ScriptReport.result dir output.succeeded files) ∧
      (ScriptReport.result dir output.succeeded files).findingCount =
        (files.flatMap ScriptReport.File.messages).length) ∧
    (∀ found, apiLinter.result dir output = .ok found ↔
      ∃ files, Document.yaml? InterfaceReport.read [] output.stdout = some files ∧
        InterfaceReport.result output.succeeded files = found) ∧
    ∀ files, InterfaceReport.HasProblems (files.flatMap InterfaceReport.File.placed)
        (InterfaceReport.result output.succeeded files) ∧
      (InterfaceReport.result output.succeeded files).findingCount =
        (files.flatMap InterfaceReport.File.problems).length := by
  refine ⟨fun _ => result_eslint_eq_ok_iff, fun files => ?_, fun _ => result_apiLinter_eq_ok_iff,
    fun files => ?_⟩
  · have hmessages := ScriptReport.hasMessages_result dir output.succeeded files
    refine ⟨hmessages, ?_⟩
    rw [hmessages.findingCount_eq, List.length_flatMap, List.length_flatMap]
    simp [ScriptReport.File.placed]
  · have hproblems := InterfaceReport.hasProblems_result output.succeeded files
    refine ⟨hproblems, ?_⟩
    rw [hproblems.findingCount_eq, List.length_flatMap, List.length_flatMap]
    simp [InterfaceReport.File.placed]

/-- Both severities in one file, a line zero, and a last line in front of the first. -/
example : ScriptReport.result ⟨⟨"/repo"⟩, none⟩ false
    [⟨"/repo/b.js", [⟨none, "m", 0, some 0, 0⟩, ⟨some "semi", "Missing.", 5, none, 1⟩]⟩,
      ⟨"./a.js", [⟨none, "n", 7, some 3, 1⟩]⟩] =
    { isSuccess := false
      warning := [⟨"b.js", 5, 5, "Missing. (semi)"⟩, ⟨"a.js", 7, 7, "n"⟩]
      error := [⟨"b.js", 1, 1, "m"⟩] } := by
  decide

end Tool

end LintRun
