import LintRun.Shell.Calculation
import LintRun.Text.Utf8

/-!
# Escapes in output

A backslash starts the name of an octet that is hard to write. In a text to be shown it may also end
the output.

## Main definitions

* `unescape` reads one name behind a backslash.
* `shownText` gives the octets of a text with escapes, and says whether the output ends there.
-/

namespace LintRun.Shell

/-- The octet of a backslash. -/
def backslash : UInt8 := 0x5C

/-- The octet that a letter behind a backslash names. -/
def namedOctet? : Char → Option UInt8
  | 'a' => some 0x07
  | 'b' => some 0x08
  | 'e' => some 0x1B
  | 'f' => some 0x0C
  | 'n' => some 0x0A
  | 'r' => some 0x0D
  | 't' => some 0x09
  | 'v' => some 0x0B
  | '\\' => some backslash
  | _ => none

/-- Whether a character is a digit of base eight. -/
def isOctal (c : Char) : Bool :=
  '0' ≤ c && c ≤ '7'

/-- The octet whose name stands behind a backslash, and what follows it. A backslash in front of
anything else stands for itself. -/
def unescape (s : List Char) : UInt8 × List Char :=
  let digits := (s.take 3).takeWhile isOctal
  match s with
  | [] => (backslash, [])
  | c :: rest =>
    if isOctal c then
      (UInt8.ofNat ((digits? 8 digits).getD 0).toNat, s.drop digits.length)
    else
      match namedOctet? c with
      | some octet => (octet, rest)
      | none => (backslash, s)

/-- The octets of a text to be shown, in which the zero in front of three octal digits does not
count, read in at most `steps` steps. The flag says whether the output ends. -/
def shownWithin (steps : Nat) (s : List Char) : List UInt8 × Bool :=
  match steps, s with
  | _ + 1, '\\' :: 'c' :: _ => ([], true)
  | steps + 1, '\\' :: rest =>
    let named :=
      match rest with
      | '0' :: c :: more => if isOctal c then c :: more else rest
      | _ => rest
    let (octet, rest) := unescape named
    let (octets, ends) := shownWithin steps rest
    (octet :: octets, ends)
  | steps + 1, c :: rest =>
    let (octets, ends) := shownWithin steps rest
    (Text.encode (String.singleton c) ++ octets, ends)
  | _, _ => ([], false)

/-- The octets of a text to be shown, and whether the output ends. -/
def shownText (s : String) : List UInt8 × Bool :=
  shownWithin s.length s.toList

/-- The octets of arguments to be shown with spaces between them and a newline at the end. -/
def echoed (endsLine : Bool) (arguments : List String) : List UInt8 :=
  let (octets, ends) := shownText (" ".intercalate arguments)
  if endsLine && !ends then octets ++ [0x0A] else octets

end LintRun.Shell
