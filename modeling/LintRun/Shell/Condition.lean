import LintRun.Shell.Calculation
import LintRun.Shell.Machine

/-!
# Conditions

A condition compares texts or numbers, or asks about files. Conditions are given as arguments, one
for every operator and operand.

## Main definitions

* `ConditionError` says what is wrong with a condition.
* `holds` says whether a condition holds.
-/

namespace LintRun.Shell

/-- What is wrong with a condition. -/
inductive ConditionError where
  /-- A text is no number. -/
  | noNumber (text : String)
  /-- Something does not belong behind a text. -/
  | unexpected (text : String)
  /-- An operand is missing behind an operator. -/
  | missing (operator : String)
  /-- A closing parenthesis is missing. -/
  | unclosed
  deriving DecidableEq, Repr

/-- The wording of a mistake in a condition. -/
def ConditionError.message : ConditionError → String
  | noNumber text => "Illegal number: " ++ text
  | unexpected text => text ++ ": unexpected operator"
  | missing operator => operator ++ ": argument expected"
  | unclosed => "closing paren expected"

/-- What a condition comes to. -/
abbrev Verdict := Except ConditionError

/-- The integer that a text stands for. -/
def integer (text : String) : Verdict Int :=
  let s := (text.toList.dropWhile (· = ' ')).reverse.dropWhile (· = ' ')
  let value? :=
    match s.reverse with
    | '-' :: digits => (digits? 10 digits).map (-·)
    | '+' :: digits => digits? 10 digits
    | digits => digits? 10 digits
  match value? with
  | some n => .ok n
  | none => .error (.noNumber text)

/-- The operators with one operand. -/
def questions : List String :=
  ["-n", "-z", "-e", "-f", "-d", "-r", "-w", "-x", "-s", "-h", "-L", "-b", "-c", "-p", "-S", "-g",
   "-u", "-k", "-O", "-G", "-t"]

/-- The operators with two operands. -/
def comparisons : List String :=
  ["=", "!=", "<", ">", "-eq", "-ne", "-gt", "-ge", "-lt", "-le", "-ef", "-nt", "-ot"]

/-- The answer to an operator with one operand. -/
def answerTo (fs : FileSystem) (question operand : String) : Bool :=
  let found := (fs.find ⟨operand⟩).toOption
  match question with
  | "-n" => operand ≠ ""
  | "-z" => operand = ""
  | "-e" => found.isSome
  | "-r" => found.isSome
  | "-w" => found.isSome
  | "-O" => found.isSome
  | "-G" => found.isSome
  | "-f" => fs.isFile ⟨operand⟩
  | "-d" => fs.isDirectory ⟨operand⟩
  | "-x" => fs.isExecutable ⟨operand⟩ || fs.isDirectory ⟨operand⟩
  | "-s" =>
    match found with
    | some (.file content _) => !content.isEmpty
    | some (.directory _) => true
    | _ => false
  | "-h" => isLink
  | "-L" => isLink
  | _ => false
where
  /-- Whether the operand is a link. -/
  isLink : Bool :=
    match fs.find ⟨operand⟩ { followsLink := false } with
    | .ok (.link _) => true
    | _ => false

/-- The answer to an operator with two operands. -/
def answerToBoth (fs : FileSystem) (comparison a b : String) : Verdict Bool := do
  match comparison with
  | "=" => return a = b
  | "!=" => return a ≠ b
  | "<" => return a < b
  | ">" => return b < a
  | "-eq" => return (← integer a) = (← integer b)
  | "-ne" => return (← integer a) ≠ (← integer b)
  | "-gt" => return (← integer a) > (← integer b)
  | "-ge" => return (← integer a) ≥ (← integer b)
  | "-lt" => return (← integer a) < (← integer b)
  | "-le" => return (← integer a) ≤ (← integer b)
  | "-ef" => return (fs.resolve ⟨a⟩).toOption.isSome && (fs.canonical? ⟨a⟩ = fs.canonical? ⟨b⟩)
  | _ => return false

mutual

/-- Whether the conditions at the front hold, of which one is enough. -/
def anyHolds (fs : FileSystem) (steps : Nat) (s : List String) : Verdict (Bool × List String) :=
  match steps with
  | 0 => .error .unclosed
  | steps + 1 => do
    let (first, rest) ← allHold fs steps s
    match rest with
    | "-o" :: rest =>
      let (second, rest) ← anyHolds fs steps rest
      return (first || second, rest)
    | rest => return (first, rest)

/-- Whether all the conditions at the front hold. -/
def allHold (fs : FileSystem) (steps : Nat) (s : List String) : Verdict (Bool × List String) :=
  match steps with
  | 0 => .error .unclosed
  | steps + 1 => do
    let (first, rest) ← oneHolds fs steps s
    match rest with
    | "-a" :: rest =>
      let (second, rest) ← allHold fs steps rest
      return (first && second, rest)
    | rest => return (first, rest)

/-- Whether the condition at the front holds. -/
def oneHolds (fs : FileSystem) (steps : Nat) (s : List String) : Verdict (Bool × List String) :=
  match steps with
  | 0 => .error .unclosed
  | steps + 1 =>
    match s with
    | [] => .ok (false, [])
    | [a, comparison] =>
      if comparisons.contains comparison then .error (.missing comparison)
      else simple fs steps a [comparison]
    | a :: comparison :: b :: rest =>
      if comparisons.contains comparison then do return (← answerToBoth fs comparison a b, rest)
      else simple fs steps a (comparison :: b :: rest)
    | a :: rest => simple fs steps a rest

/-- Whether the condition that starts with a text holds, where no operator with two operands
follows. -/
def simple (fs : FileSystem) (steps : Nat) (a : String) (rest : List String) :
    Verdict (Bool × List String) :=
  match steps with
  | 0 => .error .unclosed
  | steps + 1 => do
    match rest with
    | [] => return (a ≠ "", [])
    | operand :: behind =>
      if a = "!" then
        let (holds, rest) ← oneHolds fs steps rest
        return (!holds, rest)
      else if a = "(" then
        let (holds, rest) ← anyHolds fs steps rest
        match rest with
        | ")" :: rest => return (holds, rest)
        | _ => throw .unclosed
      else if questions.contains a then return (answerTo fs a operand, behind)
      else return (a ≠ "", rest)

end

/-- Whether a condition holds. The empty condition does not. -/
def holds (fs : FileSystem) (condition : List String) : Verdict Bool := do
  match condition with
  | [] => return false
  | [a] => return a ≠ ""
  | ["!", a] => return a = ""
  | _ => whole
where
  /-- Whether the whole condition holds. -/
  whole : Verdict Bool := do
    let (result, rest) ← anyHolds fs (4 * condition.length + 4) condition
    match rest with
    | [] => return result
    | _ =>
      let last := condition[condition.length - rest.length - 1]?
      throw (.unexpected (last.getD ""))

end LintRun.Shell
