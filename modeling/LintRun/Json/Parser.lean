import LintRun.Json.Basic

/-!
# Reading JSON

Reads the JSON grammar: one value with blanks around it. Only the space, the tab, the newline and
the carriage return are blanks, control characters have to be escaped in strings, and nothing may
follow the value.

## Main definitions

* `readString` reads a string behind its opening quote, `readNumber` a number.
* `readValue`, `readItems` and `readMembers` read a value and the inside of brackets.
* `parse` reads a document.

## Design notes

Values are nested, so the reader of values recurs under a number of steps. Two steps are taken at
most for every character, and `parse` gives as many.
-/

namespace LintRun.Json

/-- Whether a character may stand between tokens. -/
def isGap (c : Char) : Bool :=
  c = ' ' || c = '\n' || c = '\t' || c = '\r'

/-- The text behind the blanks at its front. -/
def skipGap (s : List Char) : List Char :=
  s.dropWhile isGap

/-! ## Strings -/

/-- The value of a hexadecimal digit. -/
def hexValue? (c : Char) : Option Nat :=
  if '0' ≤ c ∧ c ≤ '9' then some (c.toNat - '0'.toNat)
  else if 'a' ≤ c ∧ c ≤ 'f' then some (c.toNat - 'a'.toNat + 10)
  else if 'A' ≤ c ∧ c ≤ 'F' then some (c.toNat - 'A'.toNat + 10)
  else none

/-- The 16-bit unit that four hexadecimal digits name. -/
def unit? (a b c d : Char) : Option Nat := do
  return (((← hexValue? a) * 16 + (← hexValue? b)) * 16 + (← hexValue? c)) * 16 + (← hexValue? d)

/-- Whether a unit is the first half of a surrogate pair. -/
def isHighSurrogate (unit : Nat) : Bool :=
  0xD800 ≤ unit && unit ≤ 0xDBFF

/-- Whether a unit is the second half of a surrogate pair. -/
def isLowSurrogate (unit : Nat) : Bool :=
  0xDC00 ≤ unit && unit ≤ 0xDFFF

/-- The character that a surrogate pair names. -/
def ofSurrogates (high low : Nat) : Char :=
  Char.ofNat (0x10000 + (high - 0xD800) * 0x400 + (low - 0xDC00))

/-- The character that an escape of two characters names. -/
def escaped? (c : Char) : Option Char :=
  match c with
  | '"' => some '"'
  | '\\' => some '\\'
  | '/' => some '/'
  | 'b' => some '\x08'
  | 'f' => some '\x0c'
  | 'n' => some '\n'
  | 'r' => some '\r'
  | 't' => some '\t'
  | _ => none

/-- Reads a string behind its opening quote, as the code points and the halves of surrogate pairs
that it names, and gives the text behind it. -/
def readPoints : List Char → Option (List Nat × List Char)
  | [] => none
  | '"' :: rest => some ([], rest)
  | '\\' :: 'u' :: a :: b :: c :: d :: rest => do
    let unit ← unit? a b c d
    let (points, rest) ← readPoints rest
    return (unit :: points, rest)
  | '\\' :: e :: rest => do
    let c ← escaped? e
    let (points, rest) ← readPoints rest
    return (c.toNat :: points, rest)
  | c :: rest =>
    if c.toNat < 0x20 then none
    else do
      let (points, rest) ← readPoints rest
      return (c.toNat :: points, rest)

/-- The characters that code points and surrogate pairs name. Half of a pair alone names none. -/
def ofPoints? : List Nat → Option (List Char)
  | [] => some []
  | high :: low :: points =>
    if isHighSurrogate high then
      if isLowSurrogate low then (ofPoints? points).map (ofSurrogates high low :: ·) else none
    else if isLowSurrogate high then none
    else (ofPoints? (low :: points)).map (Char.ofNat high :: ·)
  | [point] =>
    if isHighSurrogate point || isLowSurrogate point then none else some [Char.ofNat point]

/-- Reads a string behind its opening quote, and gives the text behind it. The string is missing if
it is well formed and names no text. -/
def readString (s : List Char) : Option (Option (List Char) × List Char) := do
  let (points, rest) ← readPoints s
  return (ofPoints? points, rest)

/-! ## Numbers -/

/-- A run of one or more ASCII digits at the front, and the rest behind it. -/
def run? (s : List Char) : Option (List Char × List Char) :=
  match s.takeWhile Char.isDigit with
  | [] => none
  | run => some (run, s.dropWhile Char.isDigit)

/-- The number that a run of ASCII digits stands for. -/
def ofDigits (digits : List Char) : Nat :=
  digits.foldl (fun n c => 10 * n + (c.toNat - '0'.toNat)) 0

/-- Reads the part of a number behind the point, if there is one. -/
def readFraction (s : List Char) : Option (List Char × List Char) :=
  match s with
  | '.' :: s => (run? s).map fun (run, rest) => ('.' :: run, rest)
  | s => some ([], s)

/-- Reads the exponent of a number, if there is one. -/
def readExponent (s : List Char) : Option (List Char × List Char) :=
  match s with
  | e :: s =>
    if e = 'e' ∨ e = 'E' then
      match s with
      | sign :: more =>
        if sign = '+' ∨ sign = '-' then
          (run? more).map fun (run, rest) => (e :: sign :: run, rest)
        else (run? s).map fun (run, rest) => (e :: run, rest)
      | [] => none
    else some ([], e :: s)
  | [] => some ([], [])

/-- Reads a number without its sign. -/
def readUnsigned (negative : Bool) (s : List Char) : Option (Json × List Char) := do
  let (digits, s) ← run? s
  if digits.head? = some '0' ∧ digits.length > 1 then none
  let (fraction, s) ← readFraction s
  let (exponent, s) ← readExponent s
  let sign := if negative then ['-'] else []
  if fraction = [] ∧ exponent = [] ∧ ¬(negative ∧ digits = ['0']) then
    let n : Int := ofDigits digits
    return (.int (if negative then -n else n), s)
  else
    return (.real (String.ofList (sign ++ digits ++ fraction ++ exponent)), s)

/-- Reads a number. -/
def readNumber (s : List Char) : Option (Json × List Char) :=
  match s with
  | '-' :: s => readUnsigned true s
  | s => readUnsigned false s

/-! ## Values -/

/-- The value of a string that was read. -/
def ofString (s? : Option (List Char)) : Json :=
  match s? with
  | some s => .string (String.ofList s)
  | none => .unreadable

/-- The value of an object whose members were read. -/
def ofMembers (members : List (Option (List Char) × Json)) : Json :=
  match members.mapM fun (key?, value) => key?.map fun key => (String.ofList key, value) with
  | some members => .object members
  | none => .unreadable

/-- Reads a key with its colon. -/
def readKey (s : List Char) : Option (Option (List Char) × List Char) :=
  match skipGap s with
  | '"' :: s => do
    let (key?, s) ← readString s
    let ':' :: s := skipGap s | none
    return (key?, s)
  | _ => none

mutual

/-- Reads a value in at most `steps` steps, and gives the text behind it. -/
def readValue (steps : Nat) (s : List Char) : Option (Json × List Char) :=
  match steps with
  | 0 => none
  | steps + 1 =>
    match skipGap s with
    | 'n' :: 'u' :: 'l' :: 'l' :: s => some (.null, s)
    | 't' :: 'r' :: 'u' :: 'e' :: s => some (.bool true, s)
    | 'f' :: 'a' :: 'l' :: 's' :: 'e' :: s => some (.bool false, s)
    | '"' :: s => do
      let (s?, s) ← readString s
      return (ofString s?, s)
    | '[' :: s =>
      match skipGap s with
      | ']' :: s => some (.array [], s)
      | s => do
        let (items, s) ← readItems steps s
        return (.array items, s)
    | '{' :: s =>
      match skipGap s with
      | '}' :: s => some (.object [], s)
      | s => do
        let (members, s) ← readMembers steps s
        return (ofMembers members, s)
    | s => readNumber s

/-- Reads the items of an array up to its closing bracket. -/
def readItems (steps : Nat) (s : List Char) : Option (List Json × List Char) :=
  match steps with
  | 0 => none
  | steps + 1 => do
    let (item, s) ← readValue steps s
    match skipGap s with
    | ',' :: s => do
      let (items, s) ← readItems steps s
      return (item :: items, s)
    | ']' :: s => return ([item], s)
    | _ => none

/-- Reads the members of an object up to its closing brace. -/
def readMembers (steps : Nat) (s : List Char) :
    Option (List (Option (List Char) × Json) × List Char) :=
  match steps with
  | 0 => none
  | steps + 1 => do
    let (key?, s) ← readKey s
    let (value, s) ← readValue steps s
    match skipGap s with
    | ',' :: s => do
      let (members, s) ← readMembers steps s
      return ((key?, value) :: members, s)
    | '}' :: s => return ([(key?, value)], s)
    | _ => none

end

/-- Reads a document, which is one value with blanks around it. -/
def parse (text : String) : Option Json := do
  let s := text.toList
  let (value, rest) ← readValue (2 * s.length + 2) s
  if skipGap rest = [] then return value else none

end LintRun.Json
