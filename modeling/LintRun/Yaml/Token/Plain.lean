import LintRun.Yaml.Token.Folding

/-!
# Plain scalars

A plain scalar is a run of words without quotes. It ends in front of a colon that ends a word, of a
comment, of a document mark and of a line that is indented less than its block. Between brackets
and braces it ends also in front of a comma, a bracket and a brace, and a colon right before one
of these is refused.
-/

namespace LintRun.Yaml

/-- The characters that structure the text between brackets and braces. -/
def flowIndicators : List Char := [',', '[', ']', '{', '}']

/-- Reads a word of a plain scalar, and gives the text behind it. -/
def plainWord (inFlow : Bool) : List Spot → Option (List Char × List Spot)
  | [] => some ([], [])
  | s :: rest =>
    if s.isBlank then some ([], s :: rest)
    else if s.char = ':' && inFlow && startsWith ('?' :: flowIndicators) rest then none
    else if s.char = ':' && endsWord rest then some ([], s :: rest)
    else if inFlow && flowIndicators.contains s.char then some ([], s :: rest)
    else do
      let (word, rest) ← plainWord inFlow rest
      return (s.char :: word, rest)

/-- A plain scalar that was read. -/
structure PlainScalar where
  /-- The text with its line breaks folded. -/
  text : List Char
  /-- Whether a line break stands behind the last word. -/
  endsLine : Bool
  /-- The rest behind the scalar and the blanks that follow it. -/
  rest : List Spot

/-- Reads what follows a word of a plain scalar in at most `steps` further words. Blocks that go on
are indented to the column `indent` at least. -/
def plainRest (inFlow : Bool) (indent : Int) (steps : Nat) (spots : List Spot) :
    Option PlainScalar :=
  let (run, rest) := blanks spots
  let endsLine := run.any Spot.isBreak
  let stop : PlainScalar := ⟨[], endsLine, rest⟩
  match steps, run, rest with
  | steps + 1, _ :: _, s :: _ =>
    if hasEarlyTab indent run then none
    else if !inFlow && s.column < indent then some stop
    else if isDocumentMark rest || s.char = '#' then some stop
    else do
      match ← plainWord inFlow rest with
      | ([], _) => return stop
      | (word, rest) =>
        let more ← plainRest inFlow indent steps rest
        return { more with text := fold run ++ word ++ more.text }
  | _, _, _ => if hasEarlyTab indent run then none else some stop

/-- Reads a plain scalar. -/
def readPlain (inFlow : Bool) (indent : Int) (spots : List Spot) : Option PlainScalar := do
  let (word, rest) ← plainWord inFlow spots
  let more ← plainRest inFlow indent spots.length rest
  return { more with text := word ++ more.text }

end LintRun.Yaml
