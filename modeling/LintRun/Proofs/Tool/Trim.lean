import LintRun.Proofs.Diff.Trim
import LintRun.Proofs.Except
import LintRun.Tool.Output

/-!
# Reading trimmed output

The output of a command is trimmed before it is read. For the tools that print text this does not
matter, unless the text starts with a blank: the findings are the same, up to blanks at the end of
the last one of a diff, and so are the failures, up to the text that they quote.

## Main definitions

* `RawOutput.trimmed` is an output without blanks at its ends.
* `Tool.stream` is the text that a tool prints its findings to.

## Main statements

* `Tool.result_trimmed`: what is read from a trimmed output.
-/

namespace LintRun

open Text (AllBlank EndsSolid PaddedLines)

/-! ## Problem lines -/

namespace ProblemLine

variable {form : Form} {dir : Directory}

theorem ofLine?_append (line : String) {pad : String} (hpad : AllBlank pad.toList) :
    ofLine? form (line ++ pad) = ofLine? form line := by
  rw [ofLine?, ofLine?, String.toList_append, Text.dropBlankEnd_append_of_allBlank _ hpad]

theorem ofLine?_of_allBlank {blank : String} (hblank : AllBlank blank.toList) :
    ofLine? form blank = none := by
  rw [ofLine?, Text.dropBlankEnd_of_allBlank hblank]
  rfl

theorem ofLines_of_allBlank {blanks : List String}
    (hblanks : ∀ blank ∈ blanks, AllBlank blank.toList) : ofLines form dir blanks = .ok [] := by
  induction blanks with
  | nil => rfl
  | cons blank blanks ih =>
    rw [ofLines, ofOutputLine, ofLine?_of_allBlank (hblanks _ List.mem_cons_self),
      ih fun line hline => hblanks line (List.mem_cons_of_mem _ hline)]
    rfl

theorem toOption_ofLines_cons (line : String) (lines : List String) :
    (ofLines form dir (line :: lines)).toOption =
      (ofOutputLine form dir line).toOption.bind fun found =>
        (ofLines form dir lines).toOption.map (found.toList ++ ·) := by
  rw [ofLines]
  cases ofOutputLine form dir line with
  | error e => rfl
  | ok found => cases ofLines form dir lines <;> rfl

/-- A failure quotes the line, so that it can show the blanks. -/
theorem toOption_ofOutputLine_append (line : String) {pad : String}
    (hpad : AllBlank pad.toList) :
    (ofOutputLine form dir (line ++ pad)).toOption = (ofOutputLine form dir line).toOption := by
  rw [ofOutputLine, ofOutputLine, ofLine?_append line hpad]
  cases ofLine? form line with
  | none => rfl
  | some p =>
    dsimp only
    cases Count.read p.line <;> rfl

/-- Both readings give the same findings, or both fail. -/
theorem toOption_ofLines {lines padded : List String} (h : PaddedLines lines padded) :
    (ofLines form dir lines).toOption = (ofLines form dir padded).toOption := by
  induction h with
  | nil => rfl
  | @last line pad blanks hline hpad hblanks =>
    rw [toOption_ofLines_cons, toOption_ofLines_cons, ofLines_of_allBlank hblanks,
      toOption_ofOutputLine_append line hpad, ofLines]
  | @cons line lines padded h ih => rw [toOption_ofLines_cons, toOption_ofLines_cons, ih]

end ProblemLine

namespace Tool

/-! ## Paths -/

theorem pathFindings_trim (dir : Directory) {text : String}
    (htext : ∀ c, text.toList.head? = some c → Text.isBlank c = false) :
    pathFindings dir (Text.trim text) = pathFindings dir text := by
  have hpaths : ∀ {lines padded : List String}, PaddedLines lines padded →
      (lines.map Text.trim).filter (· ≠ "") = (padded.map Text.trim).filter (· ≠ "") := by
    intro lines padded h
    induction h with
    | nil => rfl
    | @last line pad blanks hline hpad hblanks =>
      have hnone : (blanks.map Text.trim).filter (· ≠ "") = [] := by
        simp only [List.filter_eq_nil_iff, List.mem_map]
        rintro _ ⟨blank, hblank, rfl⟩
        rw [Text.trim_of_isBlankText (List.all_eq_true.2 (hblanks blank hblank))]
        decide
      have htrim : Text.trim (line ++ pad) = Text.trim line := by
        rw [Text.trim, Text.trim, String.toList_append, Text.strip_append_of_allBlank _ hpad]
      rw [List.map_cons, List.map_cons, htrim, List.filter_cons, List.filter_cons, hnone]
      rfl
    | @cons line lines padded h ih =>
      rw [List.map_cons, List.map_cons, List.filter_cons, List.filter_cons, ih]
  rw [pathFindings, pathFindings, hpaths (Text.paddedLines_lines_trim htext)]

/-! ## Outputs -/

/-- The text that a tool prints its findings to. -/
def stream (tool : Tool) (output : RawOutput) : String :=
  match tool with
  | swiftFormat => output.stderr
  | _ => output.stdout

/-- Whether a tool prints a diff. -/
def printsDiff : Tool → Bool
  | black => true
  | gofmt => true
  | _ => false

/-- Whether a tool prints a document. -/
def printsDocument : Tool → Bool
  | apiLinter => true
  | eslint => true
  | _ => false

end Tool

/-- An output without blanks at its ends. -/
def RawOutput.trimmed (output : RawOutput) : RawOutput :=
  { output with stdout := Text.trim output.stdout, stderr := Text.trim output.stderr }

namespace Tool

variable {tool : Tool} {dir : Directory} {output : RawOutput}

/-! ## Results -/

theorem diffFindings_trim (tool : Tool) (dir : Directory) (text : String)
    (htext : ∀ c, text.toList.head? = some c → Text.isBlank c = false) :
    (∃ findings trimmed, tool.diffFindings dir text = .ok findings ∧
      tool.diffFindings dir (Text.trim text) = .ok trimmed ∧ Diff.TrimmedLast trimmed findings) ∨
    ∃ e e', Diff.findings dir text = .error e ∧ Diff.findings dir (Text.trim text) = .error e' ∧
      e'.withoutText = e.withoutText ∧
      tool.diffFindings dir text = .error (.parse tool.name e.message) ∧
      tool.diffFindings dir (Text.trim text) = .error (.parse tool.name e'.message) := by
  have halike := Diff.alike_findings_trim dir htext
  rw [diffFindings, diffFindings]
  generalize Diff.findings dir (Text.trim text) = x at halike ⊢
  generalize Diff.findings dir text = y at halike ⊢
  cases halike with
  | ok h => exact .inl ⟨_, _, rfl, rfl, h⟩
  | error h => exact .inr ⟨_, _, rfl, rfl, h, rfl, rfl⟩

theorem lineFindings_trim (tool : Tool) (form : ProblemLine.Form) (dir : Directory)
    (text : String) (htext : ∀ c, text.toList.head? = some c → Text.isBlank c = false) :
    (∃ findings, tool.lineFindings form dir text = .ok findings ∧
      tool.lineFindings form dir (Text.trim text) = .ok findings) ∨
    ∃ reason reason', tool.lineFindings form dir text = .error (.parse tool.name reason) ∧
      tool.lineFindings form dir (Text.trim text) = .error (.parse tool.name reason') := by
  have hsame : (ProblemLine.findings form dir (Text.trim text)).toOption =
      (ProblemLine.findings form dir text).toOption :=
    ProblemLine.toOption_ofLines (Text.paddedLines_lines_trim htext)
  rw [lineFindings, lineFindings]
  generalize ProblemLine.findings form dir (Text.trim text) = x at hsame ⊢
  generalize ProblemLine.findings form dir text = y at hsame ⊢
  cases x with
  | ok findings =>
    cases y with
    | ok findings' =>
      cases hsame
      exact .inl ⟨_, rfl, rfl⟩
    | error reason => cases hsame
  | error reason =>
    cases y with
    | ok findings' => cases hsame
    | error reason' => exact .inr ⟨_, _, rfl, rfl⟩

/-- What is read from a trimmed output, and what is read from the output itself. -/
structure SameResult (tool : Tool) (trimmed result : LintResult) : Prop where
  isSuccess : trimmed.isSuccess = result.isSuccess
  warning : trimmed.warning = result.warning
  /-- The last message of a diff can lose blanks at its end. -/
  error : trimmed.error = result.error ∨
    tool.printsDiff = true ∧ Diff.TrimmedLast trimmed.error result.error

/-- Why a trimmed output cannot be read, and why the output itself cannot. -/
structure SameFailure (tool : Tool) (dir : Directory) (output : RawOutput)
    (trimmed failure : Failure) : Prop where
  kind : trimmed.kind = failure.kind
  /-- The same is wrong with both diffs, in the same line. -/
  diff : tool.printsDiff = true → ∃ e e',
    Diff.findings dir output.stdout = .error e ∧
    Diff.findings dir output.trimmed.stdout = .error e' ∧
    e'.withoutText = e.withoutText ∧
    failure = .parse tool.name e.message ∧ trimmed = .parse tool.name e'.message

/-- What comes of a trimmed output, and what comes of the output itself. -/
inductive SameReading (tool : Tool) (dir : Directory) (output : RawOutput) :
    Except Failure LintResult → Except Failure LintResult → Prop where
  | result {trimmed result : LintResult} (h : SameResult tool trimmed result) :
      SameReading tool dir output (.ok trimmed) (.ok result)
  | failure {trimmed failure : Failure} (h : SameFailure tool dir output trimmed failure) :
      SameReading tool dir output (.error trimmed) (.error failure)

section Readings

variable {tool : Tool} (dir : Directory) (output : RawOutput)

theorem sameReading_of_lines (htool : tool.printsDiff = false) (form : ProblemLine.Form)
    (isSuccess : Bool) (text : String)
    (htext : ∀ c, text.toList.head? = some c → Text.isBlank c = false) :
    SameReading tool dir output
      (return errors isSuccess (← tool.lineFindings form dir (Text.trim text)))
      (return errors isSuccess (← tool.lineFindings form dir text)) := by
  rcases tool.lineFindings_trim form dir text htext with
    ⟨findings, hread, htrimmed⟩ | ⟨reason, reason', hread, htrimmed⟩
  · rw [hread, htrimmed]
    exact .result ⟨rfl, rfl, .inl rfl⟩
  · rw [hread, htrimmed]
    exact .failure ⟨rfl, fun hdiff => by rw [htool] at hdiff; cases hdiff⟩

theorem sameReading_of_diff (htool : tool.printsDiff = true) (isSuccess : List Finding → Bool)
    (hsuccess : ∀ trimmed findings, Diff.TrimmedLast trimmed findings →
      isSuccess trimmed = isSuccess findings)
    (htext : ∀ c, output.stdout.toList.head? = some c → Text.isBlank c = false) :
    SameReading tool dir output
      (do
        let findings ← tool.diffFindings dir (Text.trim output.stdout)
        return errors (isSuccess findings) findings)
      (do
        let findings ← tool.diffFindings dir output.stdout
        return errors (isSuccess findings) findings) := by
  rcases tool.diffFindings_trim dir output.stdout htext with
    ⟨findings, trimmed, hread, htrimmed, hsame⟩ | ⟨e, e', hdiff, hdiff', hsame, hread, htrimmed⟩
  · rw [hread, htrimmed]
    exact .result ⟨hsuccess _ _ hsame, rfl, .inr ⟨htool, hsame⟩⟩
  · rw [hread, htrimmed]
    exact .failure ⟨rfl, fun _ => ⟨e, e', hdiff, hdiff', hsame, rfl, rfl⟩⟩

theorem isEmpty_eq_of_trimmedLast {trimmed findings : List Finding}
    (h : Diff.TrimmedLast trimmed findings) : trimmed.isEmpty = findings.isEmpty := by
  rcases h with rfl | ⟨front, last, rfl, rfl⟩
  · rfl
  · cases front <;> rfl

end Readings

/-- Blanks at the ends of an output do not matter to the tools that print text, unless the text
starts with them. -/
theorem result_trimmed {tool : Tool} (htool : tool.printsDocument = false) (dir : Directory)
    {output : RawOutput}
    (hstream : ∀ c, (tool.stream output).toList.head? = some c → Text.isBlank c = false) :
    SameReading tool dir output (tool.result dir output.trimmed) (tool.result dir output) := by
  have hempty : SameReading tool dir output (.ok LintResult.empty) (.ok LintResult.empty) :=
    .result ⟨rfl, rfl, .inl rfl⟩
  cases tool with
  | apiLinter => cases htool
  | eslint => cases htool
  | flake8 => exact sameReading_of_lines dir output rfl .coded output.succeeded _ hstream
  | swiftFormat => exact sameReading_of_lines dir output rfl .levelled output.succeeded _ hstream
  | black =>
    rw [result, result]
    have hsucceeded : output.trimmed.succeeded = output.succeeded := rfl
    rw [hsucceeded]
    split
    · exact hempty
    · exact sameReading_of_diff dir output rfl (fun _ => false) (fun _ _ _ => rfl) hstream
  | gofmt =>
    refine sameReading_of_diff dir output rfl
      (fun findings => output.succeeded && findings.isEmpty) (fun _ _ h => ?_) hstream
    rw [isEmpty_eq_of_trimmedLast h]
  | prettier =>
    rw [result, result]
    have hsucceeded : output.trimmed.succeeded = output.succeeded := rfl
    have hfindings : pathFindings dir output.trimmed.stdout = pathFindings dir output.stdout :=
      pathFindings_trim dir hstream
    rw [hsucceeded, hfindings]
    split
    · exact hempty
    · exact .result ⟨rfl, rfl, .inl rfl⟩

/-- The last hunk of a diff loses a blank line and the blank behind an added line. A line that looks
like a hunk header is quoted without the blanks behind it. -/
theorem result_trimmed_gofmt :
    let dir : Directory := ⟨⟨"."⟩, none⟩
    let padded : RawOutput :=
      ⟨0, "--- x.go\n+++ x.go\n@@ -1,3 +1,3 @@\n-a\n+b \n \n\n", "\n"⟩
    let malformed : RawOutput := ⟨0, "diff\n@@ \t\n", ""⟩
    SameReading gofmt dir padded (gofmt.result dir padded.trimmed) (gofmt.result dir padded) ∧
      gofmt.result dir padded =
        .ok { isSuccess := false, error := [⟨"x.go", 1, 3, "-a\n+b \n \n"⟩] } ∧
      gofmt.result dir padded.trimmed =
        .ok { isSuccess := false, error := [⟨"x.go", 1, 3, "-a\n+b"⟩] } ∧
      SameReading gofmt dir malformed (gofmt.result dir malformed.trimmed)
        (gofmt.result dir malformed) ∧
      Diff.findings dir malformed.trimmed.stdout = .error (.malformedHeader 2 "@@") := by
  intro dir padded malformed
  refine ⟨result_trimmed rfl dir ?_, by decide +kernel, by decide +kernel,
    result_trimmed rfl dir ?_, by decide +kernel⟩
  · intro c hc
    have hfirst : (gofmt.stream padded).toList.head? = some '-' := by decide
    rw [hfirst] at hc
    cases hc
    rfl
  · intro c hc
    have hfirst : (gofmt.stream malformed).toList.head? = some 'd' := by decide
    rw [hfirst] at hc
    cases hc
    rfl

end Tool

end LintRun
