import LintRun.Proofs.ProblemLine
import LintRun.Proofs.Tool.Trim

/-!
# Tools that print problem lines

Two tools print one problem on a line. What is read from their output is determined by the grammar
of the lines: every line with a problem gives one finding, and the first problem whose line number
is no count stops the reading.

## Main definitions

* `Tool.lineForm?` is the form of the lines that a tool prints.

## Main statements

* `Tool.result_of_problem_lines`: what is read from an output of problem lines.
-/

namespace LintRun

open Diff (IsCount)
open ProblemLine (AreProblems Divides Form Place Problem badNumber)

/-! ## Lists of problems -/

namespace ProblemLine

variable {form : Form} {dir : Directory} {problems : List Problem}

theorem mapM_reading_of_isCount (h : ∀ x ∈ problems, IsCount x.place.line) :
    problems.mapM (Problem.reading form dir) = .ok (problems.map (Problem.finding form dir)) := by
  refine mapM_eq_ok_iff.2 (List.forall₂_map_right_iff.2 (List.forall₂_same.2 fun x hx => ?_))
  exact Problem.reading_eq_ok_iff.2 ⟨h x hx, rfl⟩

/-- The first problem whose line number is no count decides the wording. -/
theorem mapM_reading_of_not_isCount (form : Form) (dir : Directory)
    (h : ¬∀ x ∈ problems, IsCount x.place.line) :
    ∃ front x rest e, problems = front ++ x :: rest ∧ (∀ y ∈ front, IsCount y.place.line) ∧
      Count.read x.place.line = .error e ∧
      problems.mapM (Problem.reading form dir) = .error (badNumber x.output e) := by
  induction problems with
  | nil => exact absurd (by simp) h
  | cons x rest ih =>
    rcases read_cases x.place.line with ⟨hx, -⟩ | ⟨-, e, he⟩
    · -- A count is read, so that the first other number is behind it.
      have hrest : ¬∀ y ∈ rest, IsCount y.place.line :=
        fun hrest => h (List.forall_mem_cons.2 ⟨hx, hrest⟩)
      obtain ⟨front, y, rest, e, rfl, hfront, he, hmapM⟩ := ih hrest
      refine ⟨x :: front, y, rest, e, rfl, List.forall_mem_cons.2 ⟨hx, hfront⟩, he, ?_⟩
      rw [List.mapM_cons, Problem.reading_eq_ok_iff.2 ⟨hx, rfl⟩, hmapM]
      rfl
    · refine ⟨[], x, rest, e, rfl, by simp, he, ?_⟩
      rw [List.mapM_cons, Problem.reading_eq_error_iff.2 ⟨e, he, rfl⟩]
      rfl

end ProblemLine

/-! ## Outputs -/

namespace Tool

variable {tool : Tool} {form : Form} {dir : Directory} {output : RawOutput}

/-- The form of the problem lines that a tool prints. -/
def lineForm? : Tool → Option Form
  | flake8 => some .coded
  | swiftFormat => some .levelled
  | _ => none

theorem result_eq_of_lineForm? (h : tool.lineForm? = some form) :
    tool.result dir output = (do
      let findings ← ProblemLine.ofLines form dir (Text.lines (tool.stream output))
        |>.mapError (.parse tool.name)
      return errors output.succeeded findings) := by
  cases tool <;> cases h <;> rfl

/-- Every line with a problem on it gives a finding, in order, unless a line number is no count. The
first such number is the failure. -/
theorem result_of_problem_lines (h : tool.lineForm? = some form) (dir : Directory)
    (output : RawOutput) :
    (∀ s path place place', Divides form s path place → Divides form s path place' →
      place = place') ∧
    ∃ problems, AreProblems form (Text.lines (tool.stream output)) problems ∧
      (∀ problems', AreProblems form (Text.lines (tool.stream output)) problems' →
        problems' = problems) ∧
      ((∀ x ∈ problems, IsCount x.place.line) → tool.result dir output = .ok
        { isSuccess := output.status == 0
          warning := []
          error := problems.map (Problem.finding form dir) }) ∧
      ((¬∀ x ∈ problems, IsCount x.place.line) → ∃ front x rest e,
        problems = front ++ x :: rest ∧ (∀ y ∈ front, IsCount y.place.line) ∧
        Count.read x.place.line = .error e ∧
        tool.result dir output = .error (.parse tool.name (badNumber x.output e))) := by
  constructor
  · intro s path place place' hdivides hdivides'
    have htext := hdivides.eq_append.symm.trans hdivides'.eq_append
    exact Place.eq_of_text_eq hdivides.isOf hdivides'.isOf (List.append_cancel_left htext)
  · obtain ⟨problems, hproblems⟩ :=
      ProblemLine.exists_areProblems form (Text.lines (tool.stream output))
    refine ⟨problems, hproblems, fun problems' h' => h'.eq_of_areProblems hproblems, ?_, ?_⟩
    · intro hcount
      rw [result_eq_of_lineForm? h, hproblems.ofLines_eq_mapM,
        ProblemLine.mapM_reading_of_isCount hcount]
      rfl
    · intro hcount
      obtain ⟨front, x, rest, e, hsplit, hfront, he, hmapM⟩ :=
        ProblemLine.mapM_reading_of_not_isCount form dir hcount
      refine ⟨front, x, rest, e, hsplit, hfront, he, ?_⟩
      rw [result_eq_of_lineForm? h, hproblems.ofLines_eq_mapM, hmapM]
      rfl

/-- A path with a place in it, a message with one, a line zero and a line without a problem. In the
second output a number that is too large stands in front of one in other digits. -/
theorem result_of_problem_lines_flake8 :
    let dir : Directory := ⟨⟨"."⟩, none⟩
    let readable : RawOutput :=
      ⟨1, "a.py:1:2: x.py:3:4: E501 see b:5:6: W1 c \t\nnone:7:8:\n./b.py:0:9: F401 unused\r\n", ""⟩
    let unreadable : RawOutput :=
      ⟨0, "a.py:1:1: E1 x\nb.py:18446744073709551616:1: E2 y \nc.py:٣:1: E3 z\n", ""⟩
    (∃ problems, AreProblems .coded (Text.lines readable.stdout) problems ∧
      problems.map (Problem.finding .coded dir) =
        [⟨"a.py:1:2: x.py", 3, 3, "see b:5:6: W1 c (E501)"⟩, ⟨"b.py", 1, 1, "unused (F401)"⟩] ∧
      flake8.result dir readable =
        .ok { isSuccess := false, error := problems.map (Problem.finding .coded dir) }) ∧
    ∃ front x rest e, AreProblems .coded (Text.lines unreadable.stdout) (front ++ x :: rest) ∧
      (∀ y ∈ front, IsCount y.place.line) ∧ Count.read x.place.line = .error e ∧
      flake8.result dir unreadable = .error (.parse "Flake8" (badNumber x.output e)) ∧
      badNumber x.output e = "line number in \"b.py:18446744073709551616:1: E2 y \": " ++
        "number too large to fit in target type" := by
  intro dir readable unreadable
  have hform : flake8.lineForm? = some .coded := rfl
  constructor
  · have hread : flake8.result dir readable = .ok { isSuccess := false, error := [
        ⟨"a.py:1:2: x.py", 3, 3, "see b:5:6: W1 c (E501)"⟩, ⟨"b.py", 1, 1, "unused (F401)"⟩] } := by
      decide +kernel
    obtain ⟨-, problems, hproblems, -, hok, herror⟩ := result_of_problem_lines hform dir readable
    by_cases hcount : ∀ x ∈ problems, IsCount x.place.line
    · have hresult := hok hcount
      refine ⟨problems, hproblems, ?_, hresult⟩
      rw [hread] at hresult
      exact (LintResult.mk.inj (Except.ok.inj hresult)).2.2.symm
    · obtain ⟨_, _, _, _, -, -, -, hresult⟩ := herror hcount
      rw [hread] at hresult
      cases hresult
  · have hread : flake8.result dir unreadable = .error (.parse "Flake8"
        ("line number in \"b.py:18446744073709551616:1: E2 y \": " ++
          "number too large to fit in target type")) := by
      decide +kernel
    obtain ⟨-, problems, hproblems, -, hok, herror⟩ := result_of_problem_lines hform dir unreadable
    have hcount : ¬∀ x ∈ problems, IsCount x.place.line := by
      intro hcount
      have hresult := hok hcount
      rw [hread] at hresult
      cases hresult
    obtain ⟨front, x, rest, e, rfl, hfront, he, hresult⟩ := herror hcount
    refine ⟨front, x, rest, e, hproblems, hfront, he, hresult, ?_⟩
    rw [hread] at hresult
    exact (Failure.parse.inj (Except.error.inj hresult)).2.symm

end Tool

end LintRun
