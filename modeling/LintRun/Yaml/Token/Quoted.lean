import LintRun.Yaml.Token.Folding

/-!
# Quoted scalars

A scalar between single quotes has a quote written twice for every quote in it. A scalar between
double quotes has escapes, among them an escaped line break, which joins two lines. Line breaks are
folded in both. The scalar has to be closed in its document.
-/

namespace LintRun.Yaml

/-- The character that a backslash and `c` stand for. -/
def escaped? (c : Char) : Option Char :=
  match c with
  | '0' => some '\x00'
  | 'a' => some '\x07'
  | 'b' => some '\x08'
  | 't' => some '\t'
  | '\t' => some '\t'
  | 'n' => some '\n'
  | 'v' => some '\x0b'
  | 'f' => some '\x0c'
  | 'r' => some '\r'
  | 'e' => some '\x1b'
  | ' ' => some ' '
  | '"' => some '"'
  | '/' => some '/'
  | '\\' => some '\\'
  | 'N' => some '\u0085'
  | '_' => some '\u00a0'
  | 'L' => some '\u2028'
  | 'P' => some '\u2029'
  | _ => none

/-- The number of hexadecimal digits behind a backslash and `c`. -/
def digitCount? (c : Char) : Option Nat :=
  match c with
  | 'x' => some 2
  | 'u' => some 4
  | 'U' => some 8
  | _ => none

/-- The value of a hexadecimal digit. -/
def hexDigit? (c : Char) : Option Nat :=
  if c.isDigit then some (c.toNat - '0'.toNat)
  else if 'a' ≤ c ∧ c ≤ 'f' then some (c.toNat - 'a'.toNat + 10)
  else if 'A' ≤ c ∧ c ≤ 'F' then some (c.toNat - 'A'.toNat + 10)
  else none

/-- The value of hexadecimal digits. -/
def hexValue? (digits : List Char) : Option Nat :=
  digits.foldlM (fun n c => (hexDigit? c).map (16 * n + ·)) 0

/-- Reads `count` hexadecimal digits as a character. -/
def hexChar? (count : Nat) (spots : List Spot) : Option (Char × List Spot) := do
  if spots.length < count then none
  let n ← hexValue? (chars (spots.take count))
  if n.isValidChar then return (Char.ofNat n, spots.drop count) else none

/-- Reads an escape behind its backslash. -/
def readEscape? : List Spot → Option (Char × List Spot)
  | [] => none
  | s :: rest =>
    match digitCount? s.char with
    | some count => hexChar? count rest
    | none => (escaped? s.char).map (·, rest)

/-- Reads a scalar behind its opening quote in at most `steps` steps, and gives the text behind its
closing quote. -/
def quotedRest (quote : Char) (steps : Nat) (spots : List Spot) :
    Option (List Char × List Spot) :=
  match steps, spots with
  | steps + 1, s :: rest =>
    if isDocumentMark spots then none
    else if s.isBlank then do
      let (run, rest) := blanks spots
      let (text, rest) ← quotedRest quote steps rest
      return (fold run ++ text, rest)
    else if s.char = quote then
      if quote = '\'' && startsWith ['\''] rest then do
        let (text, rest) ← quotedRest quote steps rest.tail
        return ('\'' :: text, rest)
      else some ([], rest)
    else if quote = '"' && s.char = '\\' then
      if rest.head?.any Spot.isBreak then do
        let (run, rest) := blanks rest.tail
        let (text, rest) ← quotedRest quote steps rest
        return (breaks run ++ text, rest)
      else do
        let (c, rest) ← readEscape? rest
        let (text, rest) ← quotedRest quote steps rest
        return (c :: text, rest)
    else do
      let (text, rest) ← quotedRest quote steps rest
      return (s.char :: text, rest)
  | _, _ => none

/-- Reads a scalar behind its opening quote. -/
def readQuoted (quote : Char) (spots : List Spot) : Option (List Char × List Spot) :=
  quotedRest quote spots.length spots

end LintRun.Yaml
