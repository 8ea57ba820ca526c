import LintRun.Shell.Calculation
import LintRun.Shell.Field

/-!
# Expanding words

When a command runs, its words become texts: values are put in for parameters, outputs for scripts
and numbers for calculations. A word that is an argument is then divided into fields, each of which
may stand for the paths of files.

## Main definitions

* `expandFields` gives the arguments that words stand for.
* `expandText` gives the text that a word stands for where it is not divided.

## Design notes

The output of a script inside of a word is given by a function, so that words are understood without
commands.
-/

namespace LintRun.Shell

/-- Runs a script for its output. -/
abbrev Capture := String → Act String

/-- The pieces of a text all of which is quoted. -/
def quotePieces (pieces : List Piece) : List Piece :=
  pieces.map fun
    | .letter letter _ => .letter { letter with quoted := true } false
    | piece => piece

/-- The pieces of a text that separators divide outside of quotes. -/
def loosenPieces (pieces : List Piece) : List Piece :=
  pieces.map fun
    | .letter letter separates => .letter letter (separates || !letter.quoted)
    | piece => piece

/-- The pieces of the arguments of the script, which stay apart. -/
def argumentPieces (quoted : Bool) (arguments : List String) : List Piece :=
  [Piece.cut].intercalate (arguments.map (piecesOf · quoted true))

/-- Whether a parameter stands for all arguments of the script. -/
def isArguments (name : String) : Bool :=
  name = "@" || name = "*"

/-- The value of a text in a calculation. A text that is no number counts as zero. -/
def valueIn (p : Process) (name : String) : Int :=
  let text := (p.setting? name).getD ""
  (signed? text.toList).getD 0

/-- The pieces of the value of a parameter. -/
def valuePieces (name : String) (quoted : Bool) : Act (Option (List Piece)) := do
  let arguments := (← current).arguments
  if isArguments name && !(name = "*" && quoted) then
    return if arguments.isEmpty then none else some (argumentPieces quoted arguments)
  else return (← value? name).map (piecesOf · quoted true)

/-- The pieces of a parameter that has to have a value where the shell asks for it. -/
def requiredPieces (name : String) (quoted : Bool) : Act (List Piece) := do
  if name = "" then fail "Bad substitution"
  match ← valuePieces name quoted with
  | some pieces => return pieces
  | none =>
    if (← current).refusesUnset && !isArguments name then fail (name ++ ": parameter not set")
    else return []

/-- The value of a parameter, if it counts as set. -/
def setValue? (name : String) (orEmpty : Bool) : Act (Option String) := do
  return (← value? name).filter fun value => !(orEmpty && value = "")

/-- The value of a calculation. -/
def calculated (expression : String) : Act String := do
  match calculate (valueIn (← current)) expression with
  | .ok (n, values) =>
    for (name, value) in values.reverse do
      assign name (toString value) false
    return toString n
  | .error e => fail ("arithmetic expression: " ++ e.text ++ ": \"" ++ expression ++ "\"")

mutual

/-- The pieces that a part of a word stands for. -/
def Part.pieces (capture : Capture) : Part → Act (List Piece)
  | .text s quoted => return piecesOf s quoted false
  | .output script quoted => return piecesOf (← capture script) quoted true
  | .calculation expression quoted => do
    let s := plain (lettersOf (← wordPieces capture expression))
    return piecesOf (← calculated s) quoted true
  | .parameter name change argument quoted => do
    let shaped (pieces : List Piece) :=
      if quoted then quotePieces pieces else loosenPieces pieces
    match change with
    | .value => requiredPieces name quoted
    | .length =>
      let value := (← value? name).getD ""
      return piecesOf (toString value.utf8ByteSize) quoted true
    | .orElse orEmpty =>
      match ← setValue? name orEmpty with
      | some _ => requiredPieces name quoted
      | none => return shaped (← wordPieces capture argument)
    | .orAssign orEmpty =>
      if (← setValue? name orEmpty).isNone then
        let value := plain (lettersOf (← wordPieces capture argument))
        if !isName name then fail (name ++ ": bad variable name")
        assign name value false
      requiredPieces name quoted
    | .orFail orEmpty =>
      match ← setValue? name orEmpty with
      | some _ => requiredPieces name quoted
      | none =>
        let text := plain (lettersOf (← wordPieces capture argument))
        let missing := "parameter not set" ++ if orEmpty then " or null" else ""
        fail (name ++ ": " ++ if text = "" then missing else text)
    | .ifSet orEmpty =>
      match ← setValue? name orEmpty with
      | some _ => return shaped (← wordPieces capture argument)
      | none => return []
    | .dropFront longest =>
      let pattern := lettersOf (← wordPieces capture argument)
      let value := ((← value? name).getD "").toList
      return piecesOf (String.ofList (dropFront longest pattern value)) quoted true
    | .dropBack longest =>
      let pattern := lettersOf (← wordPieces capture argument)
      let value := ((← value? name).getD "").toList
      return piecesOf (String.ofList (dropBack longest pattern value)) quoted true

/-- The pieces that the parts of a word stand for. Quotes around all arguments of the script make no
field if there are no arguments. -/
def wordPieces (capture : Capture) : List Part → Act (List Piece)
  | [] => return []
  | part :: rest => do
    let front ← part.pieces capture
    let behind ← wordPieces capture rest
    match part, rest with
    | .text "" true, .parameter "@" .value _ true :: _ =>
      return if (← current).arguments.isEmpty then behind else front ++ behind
    | _, _ => return front ++ behind

end

/-- The word with the home directory for a tilde at its front. -/
def withHome (word : Word) : Act Word := do
  match word, (← current).setting? "HOME" with
  | [.text "~" false], some home => return [.text home true]
  | .text "~" false :: .text "/" false :: rest, some home =>
    return .text home true :: .text "/" false :: rest
  | _, _ => return word

/-- The letters that a word stands for where it is not divided. -/
def expandLetters (capture : Capture) (word : Word) : Act (List Letter) := do
  return lettersOf (← wordPieces capture (← withHome word))

/-- The text that a word stands for where it is not divided. -/
def expandText (capture : Capture) (word : Word) : Act String := do
  return plain (← expandLetters capture word)

/-- The arguments that words stand for. -/
def expandFields (capture : Capture) (words : List Word) : Act (List String) := do
  let fieldsOf (word : Word) : Act (List String) := do
    let pieces ← wordPieces capture (← withHome word)
    let p ← current
    let found := fields p.separators pieces
    if p.keepsPatterns then return found.map plain
    else return found.flatMap (expandPattern (← files))
  return (← words.mapM fieldsOf).flatten

end LintRun.Shell
