import LintRun.Shell.Source

/-!
# Calculations

A script can calculate with integers of 64 bits. Names stand for the values of parameters, and an
unset or empty one is zero. A value can be assigned to a name.

## Main definitions

* `calculate` gives the value of an expression.
-/

namespace LintRun.Shell

/-- Why an expression has no value. -/
inductive CalculationError where
  /-- A number or a name is missing. -/
  | noValue
  /-- Something is left at the end. -/
  | excess
  /-- A closing parenthesis is missing. -/
  | unclosed
  /-- The second value of a choice is missing. -/
  | noAlternative
  | divisionByZero
  deriving DecidableEq, Repr

/-- What is wrong with an expression. -/
def CalculationError.text : CalculationError → String
  | noValue => "expecting primary"
  | excess => "expecting EOF"
  | unclosed => "expecting ')'"
  | noAlternative => "expecting ':'"
  | divisionByZero => "division by zero"

/-- A piece of an expression. -/
inductive Symbol where
  | number (n : Int)
  | name (s : String)
  | operator (s : String)
  deriving DecidableEq, Repr

/-- The number of values of a word of 64 bits. -/
def wordCount : Nat := 0x10000000000000000

/-- The largest integer of a word of 64 bits. -/
def wordMax : Int := 0x7FFFFFFFFFFFFFFF

/-- An integer reduced to 64 bits. -/
def wrap (n : Int) : Int :=
  Int.bmod n wordCount

/-- The operators, longer ones in front of their beginnings. -/
def operators : List String :=
  ["<<=", ">>=", "<<", ">>", "<=", ">=", "==", "!=", "&&", "||", "+=", "-=", "*=", "/=", "%=", "&=",
   "|=", "^=", "+", "-", "*", "/", "%", "<", ">", "!", "~", "&", "|", "^", "(", ")", "?", ":", "="]

/-- The operator with two sides whose value an assignment takes, none for the plain assignment. -/
def assignmentOf? (operator : String) : Option (Option String) :=
  if operator = "=" then some none
  else if ["<<=", ">>=", "+=", "-=", "*=", "/=", "%=", "&=", "|=", "^="].contains operator then
    some (some (String.ofList operator.toList.dropLast))
  else none

/-- The value of a digit in a base up to sixteen. -/
def digitValue? (base : Nat) (c : Char) : Option Nat :=
  let value :=
    if c.isDigit then c.toNat - '0'.toNat
    else if 'a' ≤ c ∧ c ≤ 'f' then c.toNat - 'a'.toNat + 10
    else if 'A' ≤ c ∧ c ≤ 'F' then c.toNat - 'A'.toNat + 10
    else base
  if value < base then some value else none

/-- The value of digits in a base up to sixteen. -/
def digits? (base : Nat) (s : List Char) : Option Int :=
  if s = [] then none
  else (s.foldlM (fun n c => (digitValue? base c).map (base * n + ·)) 0).map fun n => (n : Int)

/-- The value of the text of a number in base ten, eight or sixteen. -/
def number? : List Char → Option Int
  | '0' :: 'x' :: digits => digits? 16 digits
  | '0' :: 'X' :: digits => digits? 16 digits
  | '0' :: c :: digits => digits? 8 (c :: digits)
  | digits => digits? 10 digits

/-- The value of the text of an integer. -/
def signed? : List Char → Option Int
  | '-' :: s => (number? s).map (-·)
  | '+' :: s => number? s
  | s => number? s

/-- The digits of the number at the front. -/
def leadingDigits (s : List Char) : List Char :=
  match s with
  | '0' :: 'x' :: rest => '0' :: 'x' :: rest.takeWhile fun c => (digitValue? 16 c).isSome
  | '0' :: 'X' :: rest => '0' :: 'X' :: rest.takeWhile fun c => (digitValue? 16 c).isSome
  | '0' :: rest => '0' :: rest.takeWhile fun c => (digitValue? 8 c).isSome
  | s => s.takeWhile Char.isDigit

/-- Cuts an expression into pieces. What is no number, name or operator is a piece of its own. -/
def symbols (steps : Nat) (s : List Char) : List Symbol :=
  match steps, s with
  | steps + 1, c :: rest =>
    if c = ' ' || c = '\t' || c = '\n' then symbols steps rest
    else if c.isDigit then
      let digits := leadingDigits s
      .number ((number? digits).getD 0) :: symbols steps (s.drop digits.length)
    else if isNameStart c then
      let name := s.takeWhile isNameChar
      .name (String.ofList name) :: symbols steps (s.drop name.length)
    else
      match operators.find? (·.toList.isPrefixOf s) with
      | some operator => .operator operator :: symbols steps (s.drop operator.length)
      | none => .operator (String.singleton c) :: symbols steps rest
  | _, _ => []

/-- The operators with two sides by rank, those that bind least first. -/
def ranks : List (List String) :=
  [["||"], ["&&"], ["|"], ["^"], ["&"], ["==", "!="], ["<=", ">=", "<", ">"], ["<<", ">>"],
   ["+", "-"], ["*", "/", "%"]]

/-- The number for a truth value. -/
def ofFlag (b : Bool) : Int := if b then 1 else 0

/-- The value of an operator with two sides. -/
def combine (operator : String) (a b : Int) : Except CalculationError Int :=
  match operator with
  | "||" => .ok (ofFlag (a ≠ 0 || b ≠ 0))
  | "&&" => .ok (ofFlag (a ≠ 0 && b ≠ 0))
  | "|" => .ok (wrap ((BitVec.ofInt 64 a ||| BitVec.ofInt 64 b).toInt))
  | "^" => .ok (wrap ((BitVec.ofInt 64 a ^^^ BitVec.ofInt 64 b).toInt))
  | "&" => .ok (wrap ((BitVec.ofInt 64 a &&& BitVec.ofInt 64 b).toInt))
  | "==" => .ok (ofFlag (a = b))
  | "!=" => .ok (ofFlag (a ≠ b))
  | "<=" => .ok (ofFlag (a ≤ b))
  | ">=" => .ok (ofFlag (a ≥ b))
  | "<" => .ok (ofFlag (a < b))
  | ">" => .ok (ofFlag (a > b))
  | "<<" => .ok (wrap (Int.shiftLeft a (b.toNat % 64)))
  | ">>" => .ok (Int.shiftRight a (b.toNat % 64))
  | "+" => .ok (wrap (a + b))
  | "-" => .ok (wrap (a - b))
  | "*" => .ok (wrap (a * b))
  | "/" => if b = 0 then .error .divisionByZero else .ok (wrap (a.tdiv b))
  | "%" => if b = 0 then .error .divisionByZero else .ok (a.tmod b)
  | _ => .error .noValue

/-- A calculation, with the values that were assigned in it so far, the latest first. -/
abbrev Calculating := StateT (List (String × Int)) (Except CalculationError)

/-- The value of a name in a calculation. -/
def valueOf (value : String → Int) (name : String) : Calculating Int :=
  return ((← get).lookup name).getD (value name)

mutual

/-- The value of the operators at the front that bind as the first rank or more. -/
def ranked (value : String → Int) (steps : Nat) (ranks : List (List String))
    (s : List Symbol) : Calculating (Int × List Symbol) :=
  match steps with
  | 0 => throw .noValue
  | steps + 1 =>
    match ranks with
    | [] => unary value steps s
    | rank :: inner => do
      let (first, s) ← ranked value steps inner s
      rankedRest value steps rank inner first s

/-- The value with the operators of a rank that follow. -/
def rankedRest (value : String → Int) (steps : Nat) (rank : List String)
    (inner : List (List String)) (first : Int) (s : List Symbol) :
    Calculating (Int × List Symbol) :=
  match steps with
  | 0 => throw .noValue
  | steps + 1 =>
    match s with
    | .operator operator :: rest =>
      if rank.contains operator then do
        let (second, rest) ← ranked value steps inner rest
        rankedRest value steps rank inner (← combine operator first second) rest
      else return (first, s)
    | _ => return (first, s)

/-- The value of a number, a name, a sign or parentheses at the front. -/
def unary (value : String → Int) (steps : Nat) (s : List Symbol) :
    Calculating (Int × List Symbol) :=
  match steps with
  | 0 => throw .noValue
  | steps + 1 => do
    match s with
    | .number n :: rest => return (wrap n, rest)
    | .name name :: rest => return (← valueOf value name, rest)
    | .operator "-" :: rest =>
      let (n, rest) ← unary value steps rest
      return (wrap (-n), rest)
    | .operator "+" :: rest => unary value steps rest
    | .operator "!" :: rest =>
      let (n, rest) ← unary value steps rest
      return (ofFlag (n = 0), rest)
    | .operator "~" :: rest =>
      let (n, rest) ← unary value steps rest
      return (-n - 1, rest)
    | .operator "(" :: rest =>
      let (n, rest) ← assigned value steps rest
      match rest with
      | .operator ")" :: rest => return (n, rest)
      | _ => throw .unclosed
    | _ => throw .noValue

/-- The value of an expression with a choice between two values at the front. -/
def chosen (value : String → Int) (steps : Nat) (s : List Symbol) :
    Calculating (Int × List Symbol) :=
  match steps with
  | 0 => throw .noValue
  | steps + 1 => do
    let (condition, s) ← ranked value steps ranks s
    match s with
    | .operator "?" :: rest =>
      let (a, rest) ← assigned value steps rest
      match rest with
      | .operator ":" :: rest =>
        let (b, rest) ← chosen value steps rest
        return (if condition ≠ 0 then a else b, rest)
      | _ => throw .noAlternative
    | s => return (condition, s)

/-- The value of an expression at the front that may be assigned to a name. -/
def assigned (value : String → Int) (steps : Nat) (s : List Symbol) :
    Calculating (Int × List Symbol) :=
  match steps with
  | 0 => throw .noValue
  | steps + 1 => do
    match s with
    | .name name :: .operator operator :: rest =>
      match assignmentOf? operator with
      | none => chosen value steps s
      | some change? =>
        let (n, rest) ← assigned value steps rest
        let new ←
          match change? with
          | none => pure n
          | some change => combine change (← valueOf value name) n
        modify ((name, new) :: ·)
        return (new, rest)
    | s => chosen value steps s

end

/-- The value of an expression, and the values that are assigned in it, the latest first. -/
def calculate (value : String → Int) (expression : String) :
    Except CalculationError (Int × List (String × Int)) := do
  let s := expression.toList
  let symbols := symbols s.length s
  let ((n, rest), values) ← (assigned value (16 * symbols.length + 32) symbols).run []
  if rest = [] then return (n, values) else throw .excess

end LintRun.Shell
