import LintRun.Proofs.Count
import LintRun.Proofs.Report.Agreement
import LintRun.Proofs.Text.Style

/-!
# Reports with and without styles

Styles add nothing to a report but control sequences, as long as no text in it has an escape
character. With or without them, there is one entry for each finding below the name of its tool.

## Main definitions

* `Finding.IsAt` says where a finding is.
* `Report.IsToldBy` says what is written for a report, part by part.

## Main statements

* `Report.IsToldBy.isStyled`: the parts make up the whole report.
* `Report.unstyled_pretty`: a report without its control sequences, and its parts.
-/

namespace LintRun

open Text (IsPlain IsStyled)

/-- Where a finding is: on one line, or from one line to another. -/
inductive Finding.IsAt (finding : Finding) : String → Prop where
  | line (h : finding.firstLine = finding.lastLine) :
      IsAt finding (finding.path ++ ":" ++ toString finding.firstLine)
  | lines (h : finding.firstLine ≠ finding.lastLine) :
      IsAt finding (finding.path ++ ":" ++ toString finding.firstLine ++ "-" ++
        toString finding.lastLine)

/-- An entry tells where a finding is, how severe it is, and the first line of its message. -/
def Finding.IsToldBy (shown : Bool) (severity : Severity) (finding : Finding)
    (entry : String) : Prop :=
  ∃ location, finding.IsAt location ∧
    IsStyled shown entry
      ("      " ++ location ++ " " ++ severity.text ++ " " ++ finding.summary ++ "\n")

namespace Outcome

/-- No text in an outcome has an escape character. -/
def HasPlainTexts (outcome : Outcome) : Prop :=
  match outcome.result with
  | .ok result => ∀ finding ∈ result.error ++ result.warning,
      IsPlain finding.path ∧ IsPlain finding.message
  | .error failure => IsPlain failure.message

instance (outcome : Outcome) : Decidable outcome.HasPlainTexts :=
  match outcome with
  | ⟨_, .ok result⟩ => inferInstanceAs (Decidable (∀ finding ∈ result.error ++ result.warning,
      IsPlain finding.path ∧ IsPlain finding.message))
  | ⟨_, .error failure⟩ => inferInstanceAs (Decidable (IsPlain failure.message))

/-- The line with the name of a tool. -/
def heading (shown : Bool) (outcome : Outcome) : String :=
  "  " ++ outcome.status.mark shown ++ " " ++ outcome.label ++ outcome.tally shown ++ "\n"

/-- Entries for all errors in order come in front of entries for all warnings in order. For a
failure, there is one entry with its wording. -/
def AreDetails (shown : Bool) (outcome : Outcome) (entries : List String) : Prop :=
  match outcome.result with
  | .ok result => ∃ errors warnings, entries = errors ++ warnings ∧
      List.Forall₂ (Finding.IsToldBy shown .error) result.error errors ∧
      List.Forall₂ (Finding.IsToldBy shown .warning) result.warning warnings
  | .error failure => ∃ entry, entries = [entry] ∧
      IsStyled shown entry ("      " ++ failure.message ++ "\n")

/-- A block tells the name of a tool and what came of it, and ends with an empty line. -/
def IsToldBy (shown : Bool) (outcome : Outcome) (block : String) : Prop :=
  ∃ heading entries, block = heading ++ String.join entries ++ "\n" ∧
    IsStyled shown heading (outcome.heading false) ∧ outcome.AreDetails shown entries

end Outcome

namespace Report

/-- What is behind the outcomes. -/
def closing (shown : Bool) (report : Report) : String :=
  if report.outcomes.isEmpty then
    "  " ++ Text.yellow.paint shown "No adapters selected" ++ "\n\n"
  else verdict shown report.passed report.passedCount report.outcomes.length

/-- A text names the path, and tells the outcomes in order, one block each. -/
def IsToldBy (shown : Bool) (report : Report) (path text : String) : Prop :=
  ∃ front blocks back, text = front ++ String.join blocks ++ back ∧
    IsStyled shown front ("\n  lintbridge v" ++ version ++ "\n\n  Linting: " ++ path ++ "\n\n") ∧
    List.Forall₂ (Outcome.IsToldBy shown) report.outcomes blocks ∧
    IsStyled shown back (report.closing false)

end Report

theorem isPlain_toString (n : Nat) : IsPlain (toString n) := by
  intro h
  exact absurd (Count.isDigit_of_mem_toString h) (by decide)

variable {shown : Bool}

/-! ## Findings -/

namespace Finding

variable {finding : Finding} {severity : Severity}

theorem isAt_iff {location : String} : finding.IsAt location ↔ location = finding.location := by
  rw [Finding.location]
  constructor
  · rintro (h | h)
    · rw [if_pos h]
    · rw [if_neg h, ← String.append_assoc, ← String.append_assoc]
  · rintro rfl
    by_cases h : finding.firstLine = finding.lastLine
    · rw [if_pos h]
      exact .line h
    · rw [if_neg h, ← String.append_assoc, ← String.append_assoc]
      exact .lines h

theorem isPlain_location (h : IsPlain finding.path) : IsPlain finding.location := by
  have hcolon : IsPlain ":" := by decide
  have hdash : IsPlain "-" := by decide
  rw [location]
  split <;> simp only [Text.isPlain_append_iff, isPlain_toString, h, hcolon, hdash, and_self]

theorem isPlain_summary (h : IsPlain finding.message) : IsPlain finding.summary := by
  rw [summary]
  cases hlines : Text.lines finding.message with
  | nil => decide
  | cons line rest =>
    have hmem : line ∈ Text.lines finding.message := by
      rw [hlines]
      exact List.mem_cons_self
    exact Text.isPlain_of_mem_lines h hmem

theorem isToldBy_line (hpath : IsPlain finding.path) (hmessage : IsPlain finding.message) :
    finding.IsToldBy shown severity (finding.line shown severity) := by
  have hindent : IsPlain "      " := by decide
  have hblank : IsPlain " " := by decide
  have hend : IsPlain "\n" := by decide
  have hseverity : IsPlain severity.text := by cases severity <;> decide
  refine ⟨finding.location, isAt_iff.2 rfl, ?_⟩
  exact hindent.isStyled.append (Text.isStyled_paint Text.dimmed (isPlain_location hpath))
    |>.append hblank.isStyled |>.append (Text.isStyled_paint severity.style hseverity)
    |>.append hblank.isStyled |>.append (isPlain_summary hmessage).isStyled
    |>.append hend.isStyled

theorem forall₂_isToldBy {findings : List Finding}
    (h : ∀ finding ∈ findings, IsPlain finding.path ∧ IsPlain finding.message) :
    List.Forall₂ (IsToldBy shown severity) findings (findings.map (line shown severity)) := by
  rw [List.forall₂_map_right_iff, List.forall₂_same]
  exact fun finding hfinding => isToldBy_line (h finding hfinding).1 (h finding hfinding).2

theorem IsToldBy.isStyled {entry : String} (h : finding.IsToldBy shown severity entry) :
    IsStyled shown entry (finding.line false severity) := by
  obtain ⟨location, hlocation, hentry⟩ := h
  obtain rfl := isAt_iff.1 hlocation
  exact hentry

end Finding

/-! ## Outcomes -/

namespace Outcome

variable {outcome : Outcome}

theorem isStyled_mark (status : Status) :
    IsStyled shown (status.mark shown) (status.mark false) := by
  cases status <;> exact Text.isStyled_paint _ (by decide)

theorem isPlain_label (outcome : Outcome) : IsPlain outcome.label := by
  have hname : IsPlain outcome.entry.tool.name := by cases outcome.entry.tool <;> decide
  have hcategory : IsPlain outcome.entry.category.text := by
    cases outcome.entry.category <;> decide
  have hopen : IsPlain " (" := by decide
  have hclose : IsPlain ")" := by decide
  simp only [label, Text.isPlain_append_iff, hname, hcategory, hopen, hclose, and_self]

theorem isStyled_tally (outcome : Outcome) :
    IsStyled shown (outcome.tally shown) (outcome.tally false) := by
  have hnone : IsPlain "" := by decide
  have hblank : IsPlain " " := by decide
  have hword : IsPlain " finding(s)" := by decide
  rw [tally, tally]
  cases outcome.result with
  | error failure => exact hnone.isStyled
  | ok result =>
    have hcount := Text.isPlain_append_iff.2 ⟨isPlain_toString result.findingCount, hword⟩
    dsimp only
    split
    · exact hblank.isStyled.append (Text.isStyled_paint Text.dimmed hcount)
    · exact hnone.isStyled

theorem isStyled_heading (outcome : Outcome) :
    IsStyled shown (outcome.heading shown) (outcome.heading false) := by
  have hindent : IsPlain "  " := by decide
  have hblank : IsPlain " " := by decide
  have hend : IsPlain "\n" := by decide
  exact hindent.isStyled.append (isStyled_mark outcome.status)
    |>.append hblank.isStyled |>.append outcome.isPlain_label.isStyled
    |>.append (isStyled_tally outcome) |>.append hend.isStyled

theorem exists_areDetails (shown : Bool) (h : outcome.HasPlainTexts) :
    ∃ entries, outcome.details shown = String.join entries ∧ outcome.AreDetails shown entries := by
  obtain ⟨entry, result⟩ := outcome
  cases result with
  | ok result =>
    have hplain := List.forall_mem_append.1 h
    exact ⟨_, String.join_append.symm, _, _, rfl, Finding.forall₂_isToldBy hplain.1,
      Finding.forall₂_isToldBy hplain.2⟩
  | error failure =>
    have hindent : IsPlain "      " := by decide
    have hend : IsPlain "\n" := by decide
    have hfailure : IsPlain failure.message := h
    refine ⟨[details shown ⟨entry, .error failure⟩], ?_, _, rfl, ?_⟩
    · simp
    · exact hindent.isStyled.append (Text.isStyled_paint Text.red hfailure)
        |>.append hend.isStyled

theorem AreDetails.isStyled {entries : List String} (h : outcome.AreDetails shown entries) :
    IsStyled shown (String.join entries) (outcome.details false) := by
  obtain ⟨entry, result⟩ := outcome
  cases result with
  | ok result =>
    obtain ⟨errors, warnings, rfl, herrors, hwarnings⟩ := h
    have hfront := Text.isStyled_join (Finding.line false .error) herrors
      fun _ _ => Finding.IsToldBy.isStyled
    have hback := Text.isStyled_join (Finding.line false .warning) hwarnings
      fun _ _ => Finding.IsToldBy.isStyled
    rw [String.join_append]
    exact hfront.append hback
  | error failure =>
    obtain ⟨entry, rfl, hentry⟩ := h
    rwa [String.join_cons, String.join_nil, String.append_empty]

theorem isToldBy_pretty (h : outcome.HasPlainTexts) :
    outcome.IsToldBy shown (outcome.pretty shown) := by
  obtain ⟨entries, hdetails, hentries⟩ := exists_areDetails shown h
  refine ⟨outcome.heading shown, entries, ?_, isStyled_heading outcome, hentries⟩
  rw [← hdetails]
  rfl

theorem IsToldBy.isStyled {block : String} (h : outcome.IsToldBy shown block) :
    IsStyled shown block (outcome.pretty false) := by
  have hend : IsPlain "\n" := by decide
  obtain ⟨heading, entries, rfl, hheading, hentries⟩ := h
  exact (hheading.append hentries.isStyled).append hend.isStyled

end Outcome

/-! ## Reports -/

namespace Report

variable {path : String}

theorem pretty_eq (report : Report) (shown : Bool) (path : String) :
    report.pretty shown path =
      header shown path ++ String.join (report.outcomes.map (Outcome.pretty shown)) ++
        report.closing shown := by
  rw [pretty, closing]
  split
  next hempty =>
    -- There is nothing between the front and the back.
    rw [List.isEmpty_iff.1 hempty, List.map_nil, String.join_nil, String.append_empty,
      String.append_assoc, String.append_assoc, String.append_assoc]
  next =>
    rw [String.append_assoc]
    exact congrArg _ (String.toList_injective (report.toList_footer shown))

theorem header_false (path : String) : header false path =
    "\n  lintbridge v" ++ version ++ "\n\n  Linting: " ++ path ++ "\n\n" := by
  -- Words in a style are apart from the text around them.
  have hname : "\n  " ++ "lintbridge" ++ " v" = "\n  lintbridge v" := by decide
  have hlinting (front : String) :
      front ++ "\n\n  " ++ "Linting: " = front ++ "\n\n  Linting: " := by
    rw [String.append_assoc]
    rfl
  rw [← hname, ← hlinting]
  rfl

theorem isStyled_header (h : IsPlain path) :
    IsStyled shown (header shown path) (header false path) := by
  have hfront : IsPlain "\n  " := by decide
  have hversion : IsPlain version := by decide
  have hletter : IsPlain " v" := by decide
  have hbetween : IsPlain "\n\n  " := by decide
  have hend : IsPlain "\n\n" := by decide
  exact hfront.isStyled.append (Text.isStyled_paint Text.title (by decide))
    |>.append hletter.isStyled |>.append hversion.isStyled |>.append hbetween.isStyled
    |>.append (Text.isStyled_paint Text.dimmed (by decide)) |>.append h.isStyled
    |>.append hend.isStyled

theorem isStyled_verdictWord (passed : Bool) :
    IsStyled shown (verdictWord shown passed) (verdictWord false passed) := by
  cases passed <;> exact Text.isStyled_paint _ (by decide)

theorem isStyled_closing (report : Report) :
    IsStyled shown (report.closing shown) (report.closing false) := by
  have hindent : IsPlain "  " := by decide
  have hblank : IsPlain " " := by decide
  have hslash : IsPlain "/" := by decide
  have hword : IsPlain " adapters passed\n\n" := by decide
  have hend : IsPlain "\n\n" := by decide
  rw [closing, closing]
  split
  · exact hindent.isStyled.append (Text.isStyled_paint Text.yellow (by decide))
      |>.append hend.isStyled
  · exact hindent.isStyled.append (isStyled_verdictWord report.passed)
      |>.append hblank.isStyled |>.append (isPlain_toString _).isStyled
      |>.append hslash.isStyled |>.append (isPlain_toString _).isStyled
      |>.append hword.isStyled

theorem isToldBy_pretty (report : Report) (hpath : IsPlain path)
    (h : ∀ outcome ∈ report.outcomes, outcome.HasPlainTexts) :
    report.IsToldBy shown path (report.pretty shown path) := by
  refine ⟨_, _, _, report.pretty_eq shown path, ?_, ?_, report.isStyled_closing⟩
  · rw [← header_false]
    exact isStyled_header hpath
  · rw [List.forall₂_map_right_iff, List.forall₂_same]
    exact fun outcome houtcome => Outcome.isToldBy_pretty (h outcome houtcome)

theorem IsToldBy.isStyled {report : Report} {text : String} (h : report.IsToldBy shown path text) :
    IsStyled shown text (report.pretty false path) := by
  obtain ⟨front, blocks, back, rfl, hfront, hblocks, hback⟩ := h
  rw [← header_false] at hfront
  rw [pretty_eq]
  have hjoin := Text.isStyled_join (Outcome.pretty false) hblocks
    fun _ _ => Outcome.IsToldBy.isStyled
  exact (hfront.append hjoin).append hback

/-- Without its control sequences, a report with styles is the report without them. Both tell every
outcome in order, and below it every finding in one entry, errors in front of warnings. -/
theorem unstyled_pretty (report : Report) (hpath : IsPlain path)
    (h : ∀ outcome ∈ report.outcomes, outcome.HasPlainTexts) :
    Text.unstyled (report.pretty true path).toList = (report.pretty false path).toList ∧
      ∀ shown, report.IsToldBy shown path (report.pretty shown path) := by
  constructor
  · exact (isToldBy_pretty report hpath h).isStyled.unstyled_eq
  · exact fun _ => isToldBy_pretty report hpath h

/-- One tool found something on one line and something on several, and the other did not start. -/
theorem unstyled_pretty_of_mixture :
    let report : Report := ⟨[
      ⟨⟨"flake8", .check, .flake8, none⟩, .ok
        { isSuccess := false
          warning := [⟨"a.py", 7, 7, "unused name"⟩]
          error := [⟨"b.py", 2, 4, "no such name\nin this file"⟩] }⟩,
      ⟨⟨"gofmt", .format, .gofmt, none⟩, .error (.setup "gofmt" "no such file")⟩]⟩
    report.pretty true "src" ≠ report.pretty false "src" ∧
      Text.unstyled (report.pretty true "src").toList =
        ("\n  lintbridge v0.1.0\n\n  Linting: src\n\n" ++
          "  ✗ Flake8 (check) 2 finding(s)\n" ++
          "      b.py:2-4 error no such name\n" ++
          "      a.py:7 warning unused name\n\n" ++
          "  ! gofmt (format)\n" ++
          "      gofmt is not installed: no such file\n\n" ++
          "  ✗ FAIL 0/2 adapters passed\n\n").toList ∧
      report.IsToldBy true "src" (report.pretty true "src") := by
  intro report
  have hplain : ∀ outcome ∈ report.outcomes, outcome.HasPlainTexts := by decide
  have hpath : IsPlain "src" := by decide
  obtain ⟨hunstyled, htold⟩ := unstyled_pretty report hpath hplain
  refine ⟨by decide +kernel, ?_, htold true⟩
  rw [hunstyled]
  refine congrArg String.toList ?_
  decide +kernel

end Report

end LintRun
