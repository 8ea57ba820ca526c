import LintRun.Text.Printable

/-!
# Texts in double quotes

Messages show a text that came from outside in double quotes, so that a reader can see where it
starts and ends and what is in it. Tab, newline, carriage return, the null character, the quote
and the backslash have an escape of two characters. Every other character that is not printable
is written as its code point in hexadecimal between braces.

## Main definitions

* `escape` is the written form of one character.
* `quoted` is the written form of a text, `quotedList` that of a list of texts in brackets.
-/

namespace LintRun.Text

/-- The written form of a character inside double quotes. -/
def escape (c : Char) : List Char :=
  match c with
  | '\x00' => ['\\', '0']
  | '\t' => ['\\', 't']
  | '\r' => ['\\', 'r']
  | '\n' => ['\\', 'n']
  | '"' => ['\\', '"']
  | '\\' => ['\\', '\\']
  | c =>
    if isPrintable c then [c]
    else ['\\', 'u', '{'] ++ Nat.toDigits 16 c.toNat ++ ['}']

/-- The written form of a text: its escaped characters between double quotes. -/
def quoted (s : String) : String :=
  String.ofList ('"' :: s.toList.flatMap escape ++ ['"'])

/-- The written form of a list of texts: their quoted forms in brackets, with commas. -/
def quotedList (texts : List String) : String :=
  "[" ++ ", ".intercalate (texts.map quoted) ++ "]"

end LintRun.Text
