import LintRun.Json.Basic

/-!
# Writing JSON

Values are written over several lines, with two spaces for every level, one space behind a colon,
and empty brackets closed at once. In strings the quote, the backslash and the control characters
are escaped and every other character is written as itself.
-/

namespace LintRun.Json

/-- The written form of a character in a string. -/
def escapeChar (c : Char) : List Char :=
  match c with
  | '"' => ['\\', '"']
  | '\\' => ['\\', '\\']
  | '\x08' => ['\\', 'b']
  | '\x0c' => ['\\', 'f']
  | '\n' => ['\\', 'n']
  | '\r' => ['\\', 'r']
  | '\t' => ['\\', 't']
  | c =>
    if c.toNat < 0x20 then
      ['\\', 'u', '0', '0', (c.toNat / 16).digitChar, (c.toNat % 16).digitChar]
    else [c]

/-- The written form of a string. -/
def renderString (s : String) : String :=
  String.ofList ('"' :: s.toList.flatMap escapeChar ++ ['"'])

/-- The start of a line at a level. -/
def newLine (level : Nat) : String :=
  "\n" ++ String.ofList (List.replicate (2 * level) ' ')

mutual

/-- The written form of a value whose first line starts at a level. -/
def render (level : Nat) : Json → String
  | null => "null"
  | bool true => "true"
  | bool false => "false"
  | int i => toString i
  | real literal => literal
  | string s => renderString s
  | array [] => "[]"
  | array items => "[" ++ renderItems (level + 1) items ++ newLine level ++ "]"
  | object [] => "\x7b\x7d"
  | object members => "\x7b" ++ renderMembers (level + 1) members ++ newLine level ++ "\x7d"
  | unreadable => "null"

/-- The written form of the items of an array, each on a line of its own. -/
def renderItems (level : Nat) : List Json → String
  | [] => ""
  | [item] => newLine level ++ render level item
  | item :: items => newLine level ++ render level item ++ "," ++ renderItems level items

/-- The written form of the members of an object, each on a line of its own. -/
def renderMembers (level : Nat) : List (String × Json) → String
  | [] => ""
  | [(key, value)] => newLine level ++ renderString key ++ ": " ++ render level value
  | (key, value) :: members =>
    newLine level ++ renderString key ++ ": " ++ render level value ++ ","
      ++ renderMembers level members

end

end LintRun.Json
