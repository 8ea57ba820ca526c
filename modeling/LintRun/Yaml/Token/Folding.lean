import LintRun.Yaml.Spot

/-!
# Folding of line breaks

A plain or quoted scalar may go on over several lines. The blanks between two of its words count as
they are if they hold no line break. A single newline counts as a space, and of several line breaks
the first is dropped if it is a newline. Blanks beside a line break never count.
-/

namespace LintRun.Yaml

/-- The blanks at the front, and the rest behind them. -/
def blanks (spots : List Spot) : List Spot × List Spot :=
  spots.span Spot.isBlank

/-- The line breaks among some spots. -/
def breaks (spots : List Spot) : List Char :=
  chars (spots.filter Spot.isBreak)

/-- The text that a run of blanks inside a scalar stands for. -/
def fold (run : List Spot) : List Char :=
  match breaks run with
  | [] => chars run
  | ['\n'] => [' ']
  | '\n' :: more => more
  | all => all

/-- Whether a tab stands between a line break and the column `indent`. -/
def hasEarlyTab (indent : Int) (run : List Spot) : Bool :=
  (run.dropWhile (!·.isBreak)).any fun s => s.char == '\t' && s.column < indent

end LintRun.Yaml
