/-!
# JSON values

The values of JSON documents. Objects keep their members in the order of the text, also when a key
is repeated; what a repeated key means is up to the reader of the value.

## Design notes

Numbers that are written as integers are told apart from all others, because line numbers have to
be integers. The literal `-0` is none: it stands for a negative zero.

A string can name half of a surrogate pair and is then no text. Documents may hold such strings in
places that nobody reads. They become `Json.unreadable`, and so does an object with such a key.
-/

namespace LintRun

/-- A JSON value. -/
inductive Json where
  | null
  | bool (b : Bool)
  /-- A number that is written as an integer. -/
  | int (i : Int)
  /-- Any other number, as it is written. -/
  | real (literal : String)
  | string (s : String)
  | array (items : List Json)
  | object (members : List (String × Json))
  /-- A string or an object whose text is well formed but names no value. -/
  | unreadable
  deriving Inhabited

end LintRun
