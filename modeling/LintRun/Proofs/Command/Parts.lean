import LintRun.Command
import LintRun.Proofs.Text.Blank

/-!
# Building commands

A built command is trimmed, so it can be a part of another command. Parts may therefore be built in
any groups, and a prefix may be put in front of a command at any time.

## Main definitions

* `Command.kept` are the parts that count.
* `Command.behind` is a command behind a prefix.

## Main statements

* `Command.build_append`: parts can be built in groups.
* `Command.build_eq_empty_iff`: when nothing is left.
* `Command.build_cons`: building with one more part in front.
-/

namespace LintRun.Command

/-- The parts that count, without the blanks at their ends. -/
def kept (parts : List String) : List String :=
  (parts.map Text.trim).filter (· ≠ "")

/-- A command behind a prefix. A blank prefix is none. -/
def behind (front command : String) : String :=
  if Text.isBlankText front then command else Text.trim front ++ " " ++ command

variable {parts : List String}

theorem build_eq (parts : List String) : build parts = " ".intercalate (kept parts) := rfl

theorem kept_append (parts parts' : List String) :
    kept (parts ++ parts') = kept parts ++ kept parts' := by
  rw [kept, List.map_append, List.filter_append, kept, kept]

theorem trim_of_mem_kept {part : String} (h : part ∈ kept parts) :
    Text.trim part = part ∧ part ≠ "" := by
  obtain ⟨hmem, hne⟩ := List.mem_filter.1 h
  obtain ⟨own, -, rfl⟩ := List.mem_map.1 hmem
  exact ⟨Text.trim_trim own, of_decide_eq_true hne⟩

theorem kept_eq_nil_iff : kept parts = [] ↔ ∀ part ∈ parts, Text.isBlankText part := by
  simp only [kept, List.filter_eq_nil_iff, List.forall_mem_map, decide_eq_true_eq, not_not,
    Text.trim_eq_empty_iff]

theorem trim_build (parts : List String) : Text.trim (build parts) = build parts :=
  Text.trim_intercalate fun _ => trim_of_mem_kept

theorem build_eq_empty_iff : build parts = "" ↔ ∀ part ∈ parts, Text.isBlankText part := by
  rw [← kept_eq_nil_iff, build_eq,
    Text.intercalate_eq_empty_iff fun part hpart => (trim_of_mem_kept hpart).2]

/-- A built command counts as one part, unless nothing is left of it. -/
theorem kept_cons_build (parts rest : List String) : kept (build parts :: rest) =
    if kept parts = [] then kept rest else build parts :: kept rest := by
  have hempty : build parts = "" ↔ kept parts = [] := by
    rw [build_eq_empty_iff, kept_eq_nil_iff]
  rw [kept, List.map_cons, trim_build]
  by_cases h : kept parts = []
  · rw [if_pos h, List.filter_cons_of_neg (by simpa using hempty.2 h), kept]
  · rw [if_neg h, List.filter_cons_of_pos (by simpa using hempty.not.2 h), kept]

/-- Parts can be built in groups. -/
theorem build_append (parts parts' : List String) :
    build (parts ++ parts') = build [build parts, build parts'] := by
  have hnil : kept [] = [] := rfl
  rw [build_eq, build_eq, kept_append, kept_cons_build, kept_cons_build, hnil]
  by_cases h : kept parts = []
  · by_cases h' : kept parts' = []
    · rw [if_pos h, if_pos h', h, h', List.nil_append]
    · rw [if_pos h, if_neg h', h, List.nil_append, String.intercalate_singleton, build_eq]
  · by_cases h' : kept parts' = []
    · rw [if_neg h, if_pos h', h', List.append_nil, String.intercalate_singleton, build_eq]
    · rw [if_neg h, if_neg h', String.intercalate_append_of_ne_nil h h',
        String.intercalate_cons_cons, String.intercalate_singleton, build_eq, build_eq]

theorem behind_empty (command : String) : behind "" command = command := if_pos rfl

theorem build_cons (h : build parts ≠ "") (front : String) :
    build (front :: parts) = behind front (build parts) := by
  by_cases hfront : Text.isBlankText front
  · rw [behind, if_pos hfront, build, build, List.map_cons, Text.trim_of_isBlankText hfront,
      List.filter_cons_of_neg (by simp)]
  · have hne : kept parts ≠ [] := by rwa [ne_eq, kept_eq_nil_iff, ← build_eq_empty_iff]
    rw [behind, if_neg hfront, build, List.map_cons,
      List.filter_cons_of_pos (by simpa using Text.trim_eq_empty_iff.not.2 hfront)]
    exact String.intercalate_cons_of_ne_nil hne

end LintRun.Command
