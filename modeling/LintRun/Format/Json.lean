import LintRun.Format.Basic
import LintRun.Json.Parser

/-!
# Reading JSON documents

Numbers have to be written as integers within their bounds. A record is an object, or an array with
the values of its fields in order, where fields at the end may be left out.
-/

namespace LintRun.Json

/-- The text of a string. -/
def text? : Json → Option String
  | string s => some s
  | _ => none

/-- The value of an integer between two bounds. -/
def integer? (min max : Int) : Json → Option Int
  | int i => if min ≤ i ∧ i ≤ max then some i else none
  | _ => none

/-- The value of a truth value. -/
def flag? : Json → Option Bool
  | bool b => some b
  | _ => none

/-- The value itself unless it is null. -/
def present? : Json → Option Json
  | null => none
  | v => some v

/-- The items of an array. -/
def items? : Json → Option (List Json)
  | array items => some items
  | _ => none

/-- The members of an object. -/
def members? : Json → Option (List (String × Json))
  | object members => some members
  | _ => none

/-- The values of the fields of a record. -/
def fields? (names : List String) : Json → Option (List (Option Json))
  | object members => names.mapM (fieldNamed? members)
  | array items =>
    if items.length ≤ names.length then
      some (items.map some ++ List.replicate (names.length - items.length) none)
    else none
  | _ => none

instance : Refusing Option where
  refuse := none

instance : Format Json Option where
  text := text?
  natural max v := (integer? 0 max v).map Int.toNat
  integer := integer?
  flag := flag?
  present v := some (present? v)
  items := items?
  members := members?
  fields := fields?

end LintRun.Json
