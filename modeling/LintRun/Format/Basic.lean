import LintRun.Count

/-!
# Document formats

Reports and settings come in documents, and more than one format is in use for them. A `Format`
says how a value of a document is read as a text, a number, a list or a record. What a record holds
is then said once for all formats.

## Main definitions

* `Format` is the interface of a format, and `Refusing` that of the monads for it.
* `list`, `option`, `required` and `orElse` build the readers of larger values.

## Design notes

Reading happens in a monad `m`, because a format can have to keep something while it reads. A
reading that fails has no observable cause.
-/

namespace LintRun

/-- A monad in which a reading can fail. -/
class Refusing (m : Type → Type) extends Monad m where
  /-- A reading that fails. -/
  refuse {α : Type} : m α

/-- The ways to read a value of type `V` in a document. -/
class Format (V : Type) (m : outParam (Type → Type)) where
  /-- Reads a text. -/
  text : V → m String
  /-- Reads a natural number up to a bound. -/
  natural : (max : Nat) → V → m Nat
  /-- Reads an integer between two bounds. -/
  integer : (min max : Int) → V → m Int
  /-- Reads a truth value. -/
  flag : V → m Bool
  /-- The value itself, unless it stands for a missing one. -/
  present : V → m (Option V)
  /-- The items of a list. -/
  items : V → m (List V)
  /-- The keys and values of a mapping, in the order of the document. -/
  members : V → m (List (String × V))
  /-- The values of the named fields of a record, as far as they are there. Fields with other names
  are skipped, and a field must not be given twice. -/
  fields : (names : List String) → V → m (List (Option V))

namespace Format

variable {V : Type} {m : Type → Type} [Refusing m] [Format V m] {α : Type}

/-- Reads a line number, a count or any other machine word. -/
def count (v : V) : m Nat :=
  natural Count.max v

/-- Reads a list. -/
def list (read : V → m α) (v : V) : m (List α) := do
  (← items v).mapM read

/-- Reads a value that may be missing. -/
def option (read : V → m α) (v : V) : m (Option α) := do
  match ← present v with
  | none => return none
  | some v => return some (← read v)

/-- Reads a field that has to be there. -/
def required (read : V → m α) (v? : Option V) : m α :=
  match v? with
  | some v => read v
  | none => Refusing.refuse

/-- Reads a field that has a default. -/
def orElse (default : α) (read : V → m α) (v? : Option V) : m α :=
  match v? with
  | some v => read v
  | none => pure default

end Format

/-- The fields with a name in a list of fields. -/
def fieldsNamed {V : Type} (fields : List (String × V)) (name : String) : List V :=
  (fields.filter (·.1 = name)).map Prod.snd

/-- The field with a name, if there is one. There must not be two. -/
def fieldNamed? {V : Type} (fields : List (String × V)) (name : String) : Option (Option V) :=
  match fieldsNamed fields name with
  | [] => some none
  | [value] => some (some value)
  | _ => none

end LintRun
