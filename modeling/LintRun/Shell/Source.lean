import LintRun.Shell.Syntax

/-!
# Reading words

A word of a script goes up to the next blank or operator outside of quotes. Parts of it may hold
scripts themselves, which are kept as text and read when their output is needed.

## Main definitions

* `Source` is the script behind what was read.
* `SyntaxError` says what is wrong with a script.
* `readWord` reads a word.
-/

namespace LintRun.Shell

/-- What is wrong with a script. -/
structure SyntaxError where
  /-- The line. -/
  line : Nat
  /-- What is wrong there. -/
  text : String
  deriving DecidableEq, Repr

/-- A script from some place on. -/
structure Source where
  /-- The characters. -/
  rest : List Char
  /-- The number of the line. -/
  line : Nat := 1

/-- Reads a script, or finds a mistake in it. -/
abbrev Reader := StateT Source (Except SyntaxError)

/-- A mistake at the current line. -/
def mistake {α : Type} (text : String) : Reader α := do
  throw ⟨(← get).line, text⟩

/-- The characters behind what was read. -/
def ahead : Reader (List Char) :=
  return (← get).rest

/-- Goes on behind `count` characters. -/
def advance (count : Nat) : Reader Unit :=
  modify fun source =>
    { rest := source.rest.drop count
      line := source.line + (source.rest.take count).count '\n' }

/-- The number of characters of a script as counted by a function. -/
def span (count : List Char → Option Nat) (problem : String) : Reader (List Char) := do
  let s ← ahead
  match count s with
  | some n =>
    advance n
    return s.take n
  | none => mistake problem

/-- Whether a character ends a word outside of quotes. -/
def endsWord (c : Char) : Bool :=
  " \t\n;&|<>()".toList.contains c

/-- Whether a character may start the name of a parameter. -/
def isNameStart (c : Char) : Bool :=
  c.isAlpha || c = '_'

/-- Whether a character may stand in the name of a parameter. -/
def isNameChar (c : Char) : Bool :=
  c.isAlphanum || c = '_'

/-- Whether a text is the name of a parameter that can be set. -/
def isName (s : String) : Bool :=
  match s.toList with
  | [] => false
  | c :: rest => isNameStart c && rest.all isNameChar

/-- Whether a character is the name of a parameter that the shell sets. -/
def isSpecial (c : Char) : Bool :=
  "@*#?-$!".toList.contains c || c.isDigit

/-! ## Scripts inside of words -/

/-- The number of characters up to the single quote that ends a quotation. -/
def quotationLength : List Char → Option Nat
  | [] => none
  | '\'' :: _ => some 0
  | _ :: rest => (quotationLength rest).map (· + 1)

/-- The number of characters up to the parenthesis that closes a script. The nesting of parentheses
and the quote that is open are given. -/
def scriptLength (depth : Nat) (quote? : Option Char) : List Char → Option Nat
  | [] => none
  | '\\' :: c :: rest =>
    if quote? = some '\'' then (scriptLength depth quote? (c :: rest)).map (· + 1)
    else (scriptLength depth quote? rest).map (· + 2)
  | c :: rest =>
    match quote? with
    | some quote =>
      (scriptLength depth (if c = quote then none else some quote) rest).map (· + 1)
    | none =>
      if c = '\'' || c = '"' then (scriptLength depth (some c) rest).map (· + 1)
      else if c = '(' then (scriptLength (depth + 1) none rest).map (· + 1)
      else if c = ')' then
        match depth with
        | 0 => some 0
        | depth + 1 => (scriptLength depth none rest).map (· + 1)
      else (scriptLength depth none rest).map (· + 1)

/-- The number of characters up to the backquote that closes a script. -/
def backquoteLength : List Char → Option Nat
  | [] => none
  | '`' :: _ => some 0
  | '\\' :: _ :: rest => (backquoteLength rest).map (· + 2)
  | _ :: rest => (backquoteLength rest).map (· + 1)

/-- The script between backquotes. A backslash in front of a dollar sign, a backquote or a backslash
goes, and in double quotes also one in front of a double quote. -/
def unescapeScript (quoted : Bool) : List Char → List Char
  | '\\' :: c :: rest =>
    if c = '$' || c = '`' || c = '\\' || (quoted && c = '"') then
      c :: unescapeScript quoted rest
    else '\\' :: c :: unescapeScript quoted rest
  | c :: rest => c :: unescapeScript quoted rest
  | [] => []

/-- The number of characters up to the two parentheses that close a calculation. -/
def calculationLength (depth : Nat) : List Char → Option Nat
  | [] => none
  | '(' :: rest => (calculationLength (depth + 1) rest).map (· + 1)
  | ')' :: rest =>
    match depth, rest with
    | 0, ')' :: _ => some 0
    | 0, _ => none
    | depth + 1, rest => (calculationLength depth rest).map (· + 1)
  | _ :: rest => (calculationLength depth rest).map (· + 1)

/-! ## Words -/

/-- What has to end a word. -/
inductive Ends where
  /-- A blank or an operator. -/
  | atDelimiter
  /-- A closing brace. -/
  | atBrace
  /-- A closing brace inside of double quotes, where single quotes have no meaning. -/
  | atQuotedBrace
  /-- The end of the script. -/
  | atEnd
  deriving DecidableEq, Repr

/-- Whether a closing brace has to end the word. -/
def Ends.isBrace (ends : Ends) : Bool :=
  ends = .atBrace || ends = .atQuotedBrace

/-- Whether the argument of a change is a pattern. -/
def takesPattern : Change → Bool
  | .dropFront _ => true
  | .dropBack _ => true
  | _ => false

/-- The change that the characters behind the name of a parameter stand for, and how many they
are. -/
def changeAt : List Char → Option (Change × Nat)
  | ':' :: '-' :: _ => some (.orElse true, 2)
  | ':' :: '=' :: _ => some (.orAssign true, 2)
  | ':' :: '?' :: _ => some (.orFail true, 2)
  | ':' :: '+' :: _ => some (.ifSet true, 2)
  | '-' :: _ => some (.orElse false, 1)
  | '=' :: _ => some (.orAssign false, 1)
  | '?' :: _ => some (.orFail false, 1)
  | '+' :: _ => some (.ifSet false, 1)
  | '#' :: '#' :: _ => some (.dropFront true, 2)
  | '#' :: _ => some (.dropFront false, 1)
  | '%' :: '%' :: _ => some (.dropBack true, 2)
  | '%' :: _ => some (.dropBack false, 1)
  | _ => none

/-- The name of a parameter at the front. -/
def nameAt : List Char → List Char
  | [] => []
  | c :: rest =>
    if isNameStart c then c :: rest.takeWhile isNameChar
    else if c.isDigit then c :: rest.takeWhile Char.isDigit
    else if isSpecial c then [c]
    else []

mutual

/-- Reads the parts of a word in at most `steps` steps. The flag says whether a double quote is
open. -/
def readParts (ends : Ends) (quoted : Bool) (steps : Nat) : Reader (List Part) :=
  match steps with
  | 0 => mistake "Unterminated quoted string"
  | steps + 1 => do
    match ← ahead with
    | [] =>
      if quoted && ends ≠ .atEnd then mistake "Unterminated quoted string"
      else if ends.isBrace then mistake "Missing '\x7d'"
      else return []
    | c :: rest =>
      if ends.isBrace && !quoted && c = '\x7d' then return []
      else if ends = .atDelimiter && !quoted && endsWord c then return []
      else if c = '"' && ends ≠ .atEnd then
        advance 1
        if quoted then return []
        let inner ← readParts ends true steps
        return .text "" true :: inner ++ (← readParts ends false steps)
      else if c = '\'' && !quoted && ends ≠ .atEnd && ends ≠ .atQuotedBrace then
        advance 1
        let s ← span quotationLength "Unterminated quoted string"
        advance 1
        return .text (String.ofList s) true :: (← readParts ends false steps)
      else if c = '\\' then
        match rest with
        | [] =>
          advance 1
          return [.text "\\" true]
        | '\n' :: _ =>
          advance 2
          readParts ends quoted steps
        | d :: _ =>
          advance 2
          let escapes := "$`\\".toList ++ (if ends = .atEnd then [] else ['"'])
          let isEscape :=
            (!quoted && (ends = .atDelimiter || ends = .atBrace)) || escapes.contains d ||
              (ends.isBrace && d = '\x7d')
          let s := if isEscape then [d] else ['\\', d]
          return .text (String.ofList s) true :: (← readParts ends quoted steps)
      else if c = '`' then
        advance 1
        let s ← span backquoteLength "EOF in backquote substitution"
        advance 1
        let script := String.ofList (unescapeScript quoted s)
        return .output script quoted :: (← readParts ends quoted steps)
      else if c = '$' then
        advance 1
        let part ← readDollar quoted steps
        return part :: (← readParts ends quoted steps)
      else
        advance 1
        return .text (String.singleton c) quoted :: (← readParts ends quoted steps)

/-- Reads the part behind a dollar sign. -/
def readDollar (quoted : Bool) (steps : Nat) : Reader Part :=
  match steps with
  | 0 => mistake "Bad substitution"
  | steps + 1 => do
    match ← ahead with
    | '(' :: '(' :: rest =>
      match calculationLength 0 rest with
      | some n =>
        advance 2
        let expression ← readInner steps (rest.take n)
        advance (n + 2)
        return .calculation expression quoted
      | none => mistake "Missing '))'"
    | '(' :: _ => readScript quoted
    | '\x7b' :: rest =>
      advance 1
      readBraces quoted steps rest
    | s =>
      match nameAt s with
      | [] => return .text "$" quoted
      | c :: name =>
        let name := if c.isDigit then [c] else c :: name
        advance name.length
        return .parameter (String.ofList name) .value [] quoted

/-- Reads the script of a part behind its dollar sign. -/
def readScript (quoted : Bool) : Reader Part := do
  advance 1
  let s ← span (scriptLength 0 none) "end of file unexpected (expecting \")\")"
  advance 1
  return .output (String.ofList s) quoted

/-- Reads the parameter between braces behind the left one. -/
def readBraces (quoted : Bool) (steps : Nat) (rest : List Char) : Reader Part :=
  match steps with
  | 0 => mistake "Bad substitution"
  | steps + 1 => do
    match rest with
    | '#' :: c :: more =>
      if c ≠ '\x7d' && nameAt (c :: more) ≠ [] then
        let name := nameAt (c :: more)
        advance (1 + name.length)
        if (← ahead).head? ≠ some '\x7d' then mistake "Bad substitution"
        advance 1
        return .parameter (String.ofList name) .length [] quoted
      else readChange quoted steps
    | _ => readChange quoted steps

/-- Reads the name of a parameter and its change up to the right brace. -/
def readChange (quoted : Bool) (steps : Nat) : Reader Part :=
  match steps with
  | 0 => mistake "Bad substitution"
  | steps + 1 => do
    let name := nameAt (← ahead)
    advance name.length
    let behind ← ahead
    match (if name = [] then none else changeAt behind) with
    | some (change, count) =>
      advance count
      let ends := if quoted && !takesPattern change then .atQuotedBrace else .atBrace
      let argument ← readParts ends false steps
      advance 1
      return .parameter (String.ofList name) change argument quoted
    | none =>
      let isPlain := name ≠ [] && (← ahead).head? = some '\x7d'
      let _ ← readParts .atBrace false steps
      advance 1
      return .parameter (if isPlain then String.ofList name else "") .value [] quoted

/-- Reads the parts of a text of its own, in which quotes have no meaning. -/
def readInner (steps : Nat) (text : List Char) : Reader (List Part) :=
  match steps with
  | 0 => mistake "Bad substitution"
  | steps + 1 => do
    let source ← get
    set { source with rest := text }
    let parts ← readParts .atEnd true steps
    set source
    return parts

end

/-- A number of steps that is enough for a script. -/
def enough (s : List Char) : Nat :=
  8 * s.length + 16

/-- Reads a word. -/
def readWord : Reader Word := do
  readParts .atDelimiter false (enough (← ahead))

/-- Reads the parts of a text in which quotes have no meaning. -/
def readText (s : List Char) : Reader Word :=
  readInner (enough s) s

end LintRun.Shell
