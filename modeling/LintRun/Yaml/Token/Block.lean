import LintRun.Yaml.Token.Folding

/-!
# Block scalars

A block scalar is a header and the lines below it that are indented to one column. The header may
give that column relative to the block around, and says what becomes of the line breaks at the end.
In a folded scalar a newline between two lines that start with no blank counts as a space, or not
at all if empty lines follow it.

## Main definitions

* `BlockHeader.read?` reads the header.
* `blockLines` reads the lines, and `blockText` puts them together.
-/

namespace LintRun.Yaml

/-- What becomes of the line breaks at the end of a block scalar. -/
inductive Chomping where
  /-- All are dropped. -/
  | strip
  /-- The break of the last line stays. -/
  | clip
  /-- All stay. -/
  | keep
  deriving DecidableEq, Repr

/-- The header of a block scalar. -/
structure BlockHeader where
  /-- What becomes of the line breaks at the end. -/
  chomping : Chomping
  /-- The indentation relative to the block around, if it is given. -/
  increment? : Option Nat

namespace BlockHeader

/-- Reads the mark for the line breaks at the end, if there is one. -/
def readChomping : List Spot → Option Chomping × List Spot
  | s :: rest =>
    if s.char = '+' then (some .keep, rest)
    else if s.char = '-' then (some .strip, rest)
    else (none, s :: rest)
  | [] => (none, [])

/-- Reads the indentation, if it is given. It is not zero. -/
def readIncrement? : List Spot → Option (Option Nat × List Spot)
  | s :: rest =>
    if s.char = '0' then none
    else if s.char.isDigit then some (some (s.char.toNat - '0'.toNat), rest)
    else some (none, s :: rest)
  | [] => some (none, [])

/-- Reads a header with its line end, and gives the text behind it. The two marks come in either
order. -/
def read? (spots : List Spot) : Option (BlockHeader × List Spot) := do
  let (first?, spots) := readChomping spots
  let (increment?, spots) ← readIncrement? spots
  let (second?, spots) :=
    if first?.isNone && increment?.isSome then readChomping spots else (none, spots)
  let rest ← skipLineEnd? spots
  return (⟨(first?.or second?).getD .clip, increment?⟩, rest)

end BlockHeader

/-- What stands in front of a line with content. -/
structure BlockLead where
  /-- The breaks of the empty lines. -/
  breaks : List Char
  /-- The widest indentation of a line. -/
  width : Nat
  /-- The line with content, and what follows. -/
  rest : List Spot

/-- Skips indentation and empty lines. A tab may not stand in the indentation, which goes up to the
column `indent?`, or up to the content if that is not known yet. -/
def blockLead (indent? : Option Nat) : List Spot → Option BlockLead
  | [] => some ⟨[], 0, []⟩
  | s :: rest =>
    let indenting := indent?.all (s.column < ·)
    if s.char = ' ' && indenting then blockLead indent? rest
    else if s.char = '\t' && indenting then none
    else if s.isBreak then do
      let lead ← blockLead indent? rest
      return { lead with breaks := s.char :: lead.breaks, width := max lead.width s.column }
    else some ⟨[], s.column, s :: rest⟩

/-- A line with content. -/
structure BlockLine where
  /-- The content behind the indentation. -/
  text : List Char
  /-- Whether the content starts with a space or a tab. -/
  isIndented : Bool
  /-- The break of the line, which the last line of a text may lack. -/
  ending : List Char
  /-- The breaks of the empty lines below. -/
  empties : List Char

/-- Reads at most `steps` lines that are indented to the column `indent`, and gives the text behind
them. -/
def blockLines (indent : Nat) (steps : Nat) (spots : List Spot) :
    Option (List BlockLine × List Spot) :=
  match steps, spots with
  | steps + 1, s :: rest =>
    if s.column = indent then do
      let (content, more) := (s :: rest).span (!·.isBreak)
      let lead ← blockLead (some indent) more.tail
      let line := ⟨chars content, s.isGap, chars (more.take 1), lead.breaks⟩
      let (lines, rest) ← blockLines indent steps lead.rest
      return (line :: lines, rest)
    else some ([], s :: rest)
  | _, spots => some ([], spots)

/-- The text between two lines of a block scalar. -/
def between (folds : Bool) (line next : BlockLine) : List Char :=
  if folds && line.ending = ['\n'] && !line.isIndented && !next.isIndented then
    (if line.empties = [] then [' '] else []) ++ line.empties
  else line.ending ++ line.empties

/-- The text of the lines of a block scalar. -/
def blockText (folds : Bool) (chomping : Chomping) : List BlockLine → List Char
  | [] => []
  | [last] =>
    last.text ++
      match chomping with
      | .strip => []
      | .clip => last.ending
      | .keep => last.ending ++ last.empties
  | line :: next :: more =>
    line.text ++ between folds line next ++ blockText folds chomping (next :: more)

/-- Reads a block scalar behind its indicator, and gives the text behind it. The block around it is
indented to the column `outer`. -/
def readBlock (folds : Bool) (outer : Int) (spots : List Spot) :
    Option (List Char × List Spot) := do
  let (header, spots) ← BlockHeader.read? spots
  let indent? := header.increment?.map ((max outer 0).toNat + ·)
  let lead ← blockLead indent? spots
  let indent := indent?.getD (max lead.width (max (outer + 1) 1).toNat)
  let (lines, rest) ← blockLines indent spots.length lead.rest
  let front := if lines.isEmpty && header.chomping ≠ .keep then [] else lead.breaks
  return (front ++ blockText folds header.chomping lines, rest)

end LintRun.Yaml
