import LintRun.Shell.Source

/-!
# Reading scripts

A script is read line by line, so that the lines in front of a mistake still run. A line goes on
where a command is not complete.

## Main definitions

* `readLine` reads the commands of the next line.
* `readAll` reads all commands of a script.
-/

namespace LintRun.Shell

/-! ## Blanks and operators -/

/-- The number of characters of the blanks and the comment at the front. Newlines are blank where
`overLines` says so. -/
def blankLength (overLines inComment : Bool) : List Char → Nat
  | [] => 0
  | '\\' :: '\n' :: rest => if inComment then blankLength overLines true ('\n' :: rest) + 1
    else blankLength overLines false rest + 2
  | c :: rest =>
    if c = '\n' then if overLines then blankLength true false rest + 1 else 0
    else if inComment || c = '#' then blankLength overLines true rest + 1
    else if c = ' ' || c = '\t' then blankLength overLines false rest + 1
    else 0
termination_by s => s.length

/-- Skips blanks. -/
def skipBlanks : Reader Unit := do
  advance (blankLength false false (← ahead))

/-- Skips blanks and empty lines. -/
def skipLines : Reader Unit := do
  advance (blankLength true false (← ahead))

/-- Whether the script goes on with the given characters. -/
def isAhead (s : String) : Reader Bool :=
  return s.toList.isPrefixOf (← ahead)

/-- Goes on behind the given characters, if the script goes on with them. -/
def accept (s : String) : Reader Bool := do
  if ← isAhead s then
    advance s.length
    return true
  else return false

/-- The words that structure a script. -/
def reservedWords : List String :=
  ["if", "then", "else", "elif", "fi", "do", "done", "case", "esac", "while", "until", "for",
   "\x7b", "\x7d", "!", "in"]

/-- The word without quotes at the front, if it is reserved. -/
def reserved? : Reader (Option String) := do
  let s ← ahead
  let word := String.ofList (s.takeWhile (!endsWord ·))
  return if reservedWords.contains word then some word else none

/-- What is at the front, as it is named in messages. -/
def nextName : Reader String := do
  match ← ahead with
  | [] => return "end of file"
  | '\n' :: _ => return "newline"
  | c :: rest =>
    if c = ';' && rest.head? = some ';' then return "\";;\""
    else if c = '&' && rest.head? = some '&' then return "\"&&\""
    else if c = '|' && rest.head? = some '|' then return "\"||\""
    else if c = '<' || c = '>' then return "redirection"
    else if endsWord c then return "\"" ++ String.singleton c ++ "\""
    else
      match ← reserved? with
      | some word => return "\"" ++ word ++ "\""
      | none => return "word"

/-- The mistake that something does not belong here. -/
def unexpected {α : Type} : Reader α := do
  mistake ((← nextName) ++ " unexpected")

/-- The mistake that something is missing here. -/
def expecting {α : Type} (what : String) : Reader α := do
  mistake ((← nextName) ++ " unexpected (expecting \"" ++ what ++ "\")")

/-- Goes on behind a reserved word, which has to come. -/
def require (word : String) : Reader Unit := do
  skipLines
  if (← reserved?) = some word then advance word.length else expecting word

/-! ## Redirections -/

/-- The lines of a document up to the line that ends it. Tabs at the start of lines go where
`dropsTabs` says so. -/
def documentLines (dropsTabs : Bool) (ending : List Char) :
    List (List Char) → List (List Char) × List (List Char)
  | [] => ([], [])
  | line :: rest =>
    let line := if dropsTabs then line.dropWhile (· = '\t') else line
    if line = ending then ([], rest)
    else
      let (lines, rest) := documentLines dropsTabs ending rest
      (line :: lines, rest)

/-- Cuts a text at its newlines. -/
def cutLines : List Char → List (List Char)
  | [] => [[]]
  | '\n' :: rest => [] :: cutLines rest
  | c :: rest =>
    match cutLines rest with
    | [] => [[c]]
    | line :: more => (c :: line) :: more

/-- Takes the document below the current line out of the script. -/
def takeDocument (dropsTabs : Bool) (ending : List Char) : Reader (List Char) := do
  let source ← get
  match cutLines source.rest with
  | [] => return []
  | current :: below =>
    let (lines, rest) := documentLines dropsTabs ending below
    set { source with rest := ['\n'].intercalate (current :: rest) }
    return lines.flatMap (· ++ ['\n'])

/-- The text of a word without quotes, if it has no other parts. -/
def plainText (word : Word) : String :=
  String.join (word.map fun
    | .text s _ => s
    | _ => "")

/-- Whether a part of a word is quoted. -/
def isQuoted (word : Word) : Bool :=
  word.any fun
    | .text _ quoted => quoted
    | _ => false

/-- Reads a word that has to come. -/
def readTarget : Reader Word := do
  skipBlanks
  match ← readWord with
  | [] => unexpected
  | word => return word

/-- The number of a stream at the front, and how many characters it has. -/
def streamAt (s : List Char) : Option Nat × Nat :=
  match s with
  | c :: '<' :: _ => if c.isDigit then (some (c.toNat - '0'.toNat), 1) else (none, 0)
  | c :: '>' :: _ => if c.isDigit then (some (c.toNat - '0'.toNat), 1) else (none, 0)
  | _ => (none, 0)

/-- Reads a document behind its operator. -/
def readDocument (stream : Nat) (dropsTabs : Bool) : Reader Redirection := do
  let word ← readTarget
  let body ← takeDocument dropsTabs (plainText word).toList
  if isQuoted word then return .document stream [.text (String.ofList body) true]
  else return .document stream (← readText body)

/-- Reads a redirection, if there is one. -/
def redirection? : Reader (Option Redirection) := do
  let (stream?, count) := streamAt (← ahead)
  match (← ahead).drop count with
  | '<' :: '<' :: '-' :: _ =>
    advance (count + 3)
    return some (← readDocument (stream?.getD 0) true)
  | '<' :: '<' :: _ =>
    advance (count + 2)
    return some (← readDocument (stream?.getD 0) false)
  | '<' :: '&' :: _ =>
    advance (count + 2)
    return some (.copy (stream?.getD 0) (← readTarget))
  | '<' :: _ =>
    advance (count + 1)
    return some (.input (stream?.getD 0) (← readTarget))
  | '>' :: '>' :: _ =>
    advance (count + 2)
    return some (.output (stream?.getD 1) (← readTarget) true)
  | '>' :: '&' :: _ =>
    advance (count + 2)
    return some (.copy (stream?.getD 1) (← readTarget))
  | '>' :: '|' :: _ =>
    advance (count + 2)
    return some (.output (stream?.getD 1) (← readTarget) false)
  | '>' :: _ =>
    advance (count + 1)
    return some (.output (stream?.getD 1) (← readTarget) false)
  | _ => return none

/-- Reads all redirections. -/
def readRedirections (steps : Nat) : Reader (List Redirection) :=
  match steps with
  | 0 => return []
  | steps + 1 => do
    skipBlanks
    match ← redirection? with
    | some r => return r :: (← readRedirections steps)
    | none => return []

/-! ## Commands -/

/-- The name and the equals sign of an assignment at the front. -/
def assignmentAt (s : List Char) : Option (List Char) :=
  let name := s.takeWhile isNameChar
  if isName (String.ofList name) && (s.drop name.length).head? = some '=' then some name else none

/-- The parts of a simple command. -/
structure Simple where
  /-- The assignments. -/
  assignments : List (String × Word) := []
  /-- The words. -/
  words : List Word := []
  /-- The redirections. -/
  redirections : List Redirection := []

/-- Reads the parts of a simple command in at most `steps` steps. -/
def readSimple (steps : Nat) (simple : Simple) : Reader Simple :=
  match steps with
  | 0 => return simple
  | steps + 1 => do
    skipBlanks
    if let some r ← redirection? then
      readSimple steps { simple with redirections := simple.redirections ++ [r] }
    else
      match assignmentAt (← ahead), simple.words with
      | some name, [] =>
        advance (name.length + 1)
        let word ← readWord
        let assignment := (String.ofList name, word)
        readSimple steps { simple with assignments := simple.assignments ++ [assignment] }
      | _, _ =>
        match ← readWord with
        | [] => return simple
        | word => readSimple steps { simple with words := simple.words ++ [word] }

/-- Reads words up to the end of the line or a semicolon. -/
def readWords (steps : Nat) : Reader (List Word) :=
  match steps with
  | 0 => return []
  | steps + 1 => do
    skipBlanks
    match ← readWord with
    | [] => return []
    | word => return word :: (← readWords steps)

/-- Reads a word that has to come where a command takes one. -/
def readSubject : Reader Word := do
  skipBlanks
  match ← readWord with
  | [] => mistake ((← nextName) ++ " unexpected (expecting word)")
  | word => return word

/-- Reads the patterns of a branch up to the parenthesis. -/
def readPatterns (steps : Nat) : Reader (List Word) :=
  match steps with
  | 0 => return []
  | steps + 1 => do
    skipBlanks
    let word ← readWord
    skipBlanks
    if word.isEmpty then expecting ")"
    if ← accept "|" then return word :: (← readPatterns steps)
    else if ← accept ")" then return [word]
    else expecting ")"

mutual

/-- Reads a list of commands in at most `steps` steps, over several lines where `overLines` says
so. -/
def readList (overLines : Bool) (steps : Nat) : Reader Command :=
  match steps with
  | 0 => unexpected
  | steps + 1 => do
    if overLines then skipLines else skipBlanks
    if ← endsList then return .skip
    let command ← readChain steps
    skipBlanks
    if ← isAhead ";;" then return command
    else if ← accept ";" then
      return .join .andThen command (← readList overLines steps)
    else if ← (do return (← isAhead "&") && !(← isAhead "&&")) then
      advance 1
      return .join .andThen (.background command) (← readList overLines steps)
    else if overLines && (← isAhead "\n") then
      return .join .andThen command (← readList overLines steps)
    else return command

/-- Reads a list of commands over several lines, of which there has to be one. -/
def readBody (steps : Nat) : Reader Command :=
  match steps with
  | 0 => unexpected
  | steps + 1 => do
    skipLines
    if (← endsList) && !(← ahead).isEmpty then unexpected
    readList true steps

/-- Whether a list of commands ends here. -/
def endsList : Reader Bool := do
  match ← ahead with
  | [] => return true
  | '\n' :: _ => return true
  | ')' :: _ => return true
  | ';' :: ';' :: _ => return true
  | _ =>
    match ← reserved? with
    | some word => return ["then", "else", "elif", "fi", "do", "done", "esac", "\x7d"].contains word
    | none => return false

/-- Reads commands that go on if the one in front succeeds or fails. -/
def readChain (steps : Nat) : Reader Command :=
  match steps with
  | 0 => unexpected
  | steps + 1 => do
    let first ← readPipeline steps
    readChainRest steps first

/-- Reads the commands behind `first` in a chain. -/
def readChainRest (steps : Nat) (first : Command) : Reader Command :=
  match steps with
  | 0 => unexpected
  | steps + 1 => do
    skipBlanks
    if ← accept "&&" then
      skipLines
      let second ← readPipeline steps
      readChainRest steps (.join .ifPassed first second)
    else if ← accept "||" then
      skipLines
      let second ← readPipeline steps
      readChainRest steps (.join .ifFailed first second)
    else return first

/-- Reads commands that read the output of one another. -/
def readPipeline (steps : Nat) : Reader Command :=
  match steps with
  | 0 => unexpected
  | steps + 1 => do
    skipBlanks
    if (← reserved?) = some "!" then
      advance 1
      skipBlanks
      if (← reserved?) = some "!" then unexpected
      return .negate (← readPipes steps)
    else readPipes steps

/-- Reads commands with bars between them. -/
def readPipes (steps : Nat) : Reader Command :=
  match steps with
  | 0 => unexpected
  | steps + 1 => do
    let first ← readCommand steps
    skipBlanks
    if (← isAhead "|") && !(← isAhead "||") then
      advance 1
      skipLines
      return .pipe first (← readPipes steps)
    else return first

/-- Reads a command with its redirections. -/
def readCommand (steps : Nat) : Reader Command :=
  match steps with
  | 0 => unexpected
  | steps + 1 => do
    skipBlanks
    let line := (← get).line
    match ← readCompound? steps with
    | some command =>
      match ← readRedirections steps with
      | [] => return command
      | redirections => return .redirect command redirections
    | none =>
      let simple ← readSimple (enough (← ahead)) {}
      match simple.assignments, simple.words, simple.redirections with
      | [], [], [] => unexpected
      | [], [[.text "" _]], [] => return .simple line [] simple.words []
      | _, _, _ =>
        match simple.words with
        | [name] =>
          skipBlanks
          if simple.assignments.isEmpty && (← isAhead "(") then
            advance 1
            skipBlanks
            if !(← accept ")") then expecting ")"
            skipLines
            return .define (plainText name) (← readCommand steps)
          else return .simple line simple.assignments simple.words simple.redirections
        | _ => return .simple line simple.assignments simple.words simple.redirections

/-- Reads a command that is made of other commands, if there is one. -/
def readCompound? (steps : Nat) : Reader (Option Command) :=
  match steps with
  | 0 => unexpected
  | steps + 1 => do
    if ← accept "(" then
      let body ← readBody steps
      skipLines
      if !(← accept ")") then expecting ")"
      return some (.subshell body)
    match ← reserved? with
    | some "\x7b" =>
      advance 1
      let body ← readBody steps
      require "\x7d"
      return some body
    | some "if" =>
      advance 2
      return some (← readChoice steps)
    | some "while" =>
      advance 5
      return some (← readLoop false steps)
    | some "until" =>
      advance 5
      return some (← readLoop true steps)
    | some "for" =>
      advance 3
      skipBlanks
      let name := (← ahead).takeWhile isNameChar
      if !isName (String.ofList name) then mistake "Bad for loop variable"
      advance name.length
      skipLines
      let words? ←
        if (← reserved?) = some "in" then do
          advance 2
          pure (some (← readWords (enough (← ahead))))
        else pure none
      skipBlanks
      let isEnded ← accept ";"
      if words?.isSome && !isEnded && !(← isAhead "\n") then unexpected
      require "do"
      let body ← readBody steps
      require "done"
      return some (.forEach (String.ofList name) words? body)
    | some "case" =>
      advance 4
      let subject ← readSubject
      require "in"
      return some (.select subject (← readBranches steps))
    | some _ => unexpected
    | none => return none

/-- Reads a condition and what depends on it. -/
def readChoice (steps : Nat) : Reader Command :=
  match steps with
  | 0 => unexpected
  | steps + 1 => do
    let condition ← readBody steps
    require "then"
    let passed ← readBody steps
    skipLines
    match ← reserved? with
    | some "elif" =>
      advance 4
      return .choose condition passed (← readChoice steps)
    | some "else" =>
      advance 4
      let failed ← readBody steps
      require "fi"
      return .choose condition passed failed
    | some "fi" =>
      advance 2
      return .choose condition passed .skip
    | _ => expecting "fi"

/-- Reads the condition and the body of a loop. -/
def readLoop (untilPassed : Bool) (steps : Nat) : Reader Command :=
  match steps with
  | 0 => unexpected
  | steps + 1 => do
    let condition ← readBody steps
    require "do"
    let body ← readBody steps
    require "done"
    return .loop untilPassed condition body

/-- Reads the branches of a selection. -/
def readBranches (steps : Nat) : Reader (List (List Word × Command)) :=
  match steps with
  | 0 => unexpected
  | steps + 1 => do
    skipLines
    if (← reserved?) = some "esac" then
      advance 4
      return []
    let _ ← accept "("
    let patterns ← readPatterns (enough (← ahead))
    let body ← readList true steps
    skipLines
    if ← accept ";;" then return (patterns, body) :: (← readBranches steps)
    else
      require "esac"
      return [(patterns, body)]

end

/-- Reads the commands of the next line, if there are any. -/
def readLine : Reader (Option Command) := do
  skipLines
  match ← ahead with
  | [] => return none
  | s =>
    let command ← readList false (enough s)
    skipBlanks
    match ← ahead with
    | [] => return some command
    | '\n' :: _ =>
      advance 1
      return some command
    | _ => unexpected

end LintRun.Shell
