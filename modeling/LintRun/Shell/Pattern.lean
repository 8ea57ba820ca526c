/-!
# Patterns

A pattern matches texts. A star stands for any text, a question mark for any character, and brackets
for one of some characters. Quoted characters stand for themselves.

## Main definitions

* `Letter` is a character of a pattern.
* `isMatch` says whether a pattern matches a text.
-/

namespace LintRun.Shell

/-- A character, and whether it is quoted. -/
structure Letter where
  /-- The character. -/
  char : Char
  /-- Whether the character stands for itself. -/
  quoted : Bool
  deriving DecidableEq, Repr

namespace Letter

/-- Whether the letter is the given character without quotes. -/
def acts (letter : Letter) (c : Char) : Bool :=
  !letter.quoted && letter.char == c

end Letter

/-- The characters of some letters. -/
def plain (letters : List Letter) : String :=
  String.ofList (letters.map Letter.char)

/-- The names of classes of characters in brackets. -/
def classes : List (String × (Char → Bool)) :=
  [("alpha", Char.isAlpha), ("digit", Char.isDigit), ("alnum", Char.isAlphanum),
   ("upper", Char.isUpper), ("lower", Char.isLower),
   ("space", fun c => c.isWhitespace || c = '\x0b' || c = '\x0c'),
   ("blank", fun c => c = ' ' || c = '\t'),
   ("punct", fun c => 0x20 < c.toNat && c.toNat < 0x7F && !c.isAlphanum),
   ("xdigit", fun c => c.isDigit || ('a' ≤ c && c ≤ 'f') || ('A' ≤ c && c ≤ 'F'))]

/-- Whether a character is in the set that letters between brackets describe. -/
def inSet (c : Char) : List Letter → Bool
  | [] => false
  | a :: dash :: b :: rest =>
    if a.acts '[' && dash.char = ':' then
      let name := (b :: rest).takeWhile (·.char.isAlpha)
      let isIn := (classes.lookup (plain name)).any (· c)
      isIn || inSet c ((b :: rest).drop (name.length + 2))
    else if dash.acts '-' then (a.char ≤ c && c ≤ b.char) || inSet c rest
    else a.char = c || inSet c (dash :: b :: rest)
  | a :: rest => a.char = c || inSet c rest
termination_by letters => letters.length

/-- The letters between brackets behind the left one, and those behind the right one. -/
def bracketed? (isFirst : Bool) : List Letter → Option (List Letter × List Letter)
  | [] => none
  | letter :: rest =>
    if letter.acts ']' && !isFirst then some ([], rest)
    else if letter.acts '[' && (rest.head?.any (·.char = ':')) then
      let name := rest.takeWhile fun l => l.char.isAlpha || l.char = ':'
      let after := rest.drop (name.length + 1)
      (bracketed? false after).map fun (set, rest') =>
        (letter :: rest.take (name.length + 1) ++ set, rest')
    else (bracketed? false rest).map fun (set, rest') => (letter :: set, rest')
termination_by letters => letters.length

/-- Whether a pattern matches a text, decided in at most `steps` steps. -/
def matchWithin (steps : Nat) (pattern : List Letter) (s : List Char) : Bool :=
  match steps with
  | 0 => false
  | steps + 1 =>
    match pattern, s with
    | [], [] => true
    | [], _ :: _ => false
    | letter :: rest, s =>
      if letter.acts '*' then
        matchWithin steps rest s ||
          match s with
          | [] => false
          | _ :: more => matchWithin steps (letter :: rest) more
      else
        match s with
        | [] => false
        | c :: more =>
          if letter.acts '?' then matchWithin steps rest more
          else if letter.acts '[' then
            match bracketed? true (if rest.head?.any (·.acts '!') then rest.tail else rest) with
            | some (set, behind) =>
              (inSet c set != rest.head?.any (·.acts '!')) && matchWithin steps behind more
            | none => letter.char = c && matchWithin steps rest more
          else letter.char = c && matchWithin steps rest more

/-- Whether a pattern matches a text. -/
def isMatch (pattern : List Letter) (s : List Char) : Bool :=
  matchWithin (pattern.length + s.length + 1) pattern s

/-- Whether a letter makes a pattern of the letters around it. -/
def isGlob (letter : Letter) : Bool :=
  letter.acts '*' || letter.acts '?' || letter.acts '['

/-- The text without a part at the front that a pattern matches. The part is the longest or the
shortest. -/
def dropFront (longest : Bool) (pattern : List Letter) (s : List Char) : List Char :=
  let counts := List.range (s.length + 1)
  let counts := if longest then counts.reverse else counts
  match counts.find? fun n => isMatch pattern (s.take n) with
  | some n => s.drop n
  | none => s

/-- The text without a part at the back that a pattern matches. -/
def dropBack (longest : Bool) (pattern : List Letter) (s : List Char) : List Char :=
  let counts := List.range (s.length + 1)
  let counts := if longest then counts else counts.reverse
  match counts.find? fun n => isMatch pattern (s.drop n) with
  | some n => s.take n
  | none => s

end LintRun.Shell
