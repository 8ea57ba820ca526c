import LintRun.Yaml.Token
import LintRun.Yaml.Token.Quoted

/-!
# Names in a document

A node may have an anchor, which is a name that other places refer to, and a tag, which names a
type. A tag is written in full, or as a handle and a suffix, and a directive in front of the
document says what a handle stands for.

## Main definitions

* `readAnchor` and `readTag` read these names behind their first character.
* `readDirective` reads a directive.

## Design notes

A tag is a text of octets, and an escape in it names one octet. Its other characters are ASCII.
An octet zero ends the tag.
-/

namespace LintRun.Yaml

/-- Reads the name of an anchor, and gives the text behind it. -/
def readAnchor (spots : List Spot) : Option (List Char × List Spot) :=
  let (name, rest) := spots.span Spot.isNameChar
  if name ≠ [] ∧ (endsWord rest ∨ startsWith ['?', ':', ',', ']', '}', '%', '@', '`'] rest) then
    some (chars name, rest)
  else none

/-! ## Tags -/

/-- The number of octets of a character whose first octet is `octet`. -/
def octetCount? (octet : Nat) : Option Nat :=
  if octet < 0x80 then some 1
  else if octet < 0xC0 then none
  else if octet < 0xE0 then some 2
  else if octet < 0xF0 then some 3
  else if octet < 0xF8 then some 4
  else none

/-- Reads an octet written as a percent sign and two hexadecimal digits. -/
def readOctet? : List Spot → Option (Nat × List Spot)
  | s :: high :: low :: rest =>
    if s.char = '%' then do
      return (16 * (← hexDigit? high.char) + (← hexDigit? low.char), rest)
    else none
  | _ => none

/-- Reads `count` octets that go on a character. -/
def readTrail? (count : Nat) (spots : List Spot) : Option (List Char × List Spot) :=
  match count with
  | 0 => some ([], spots)
  | count + 1 => do
    let (octet, rest) ← readOctet? spots
    if octet / 0x40 ≠ 2 then none
    let (trail, rest) ← readTrail? count rest
    return (Char.ofNat octet :: trail, rest)

/-- Reads the octets of an escaped character. -/
def readOctets? (spots : List Spot) : Option (List Char × List Spot) := do
  let (octet, rest) ← readOctet? spots
  let (trail, rest) ← readTrail? ((← octetCount? octet) - 1) rest
  return (Char.ofNat octet :: trail, rest)

/-- Whether a character may stand in a tag that is written in full or not. -/
def isTagChar (inFull : Bool) (s : Spot) : Bool :=
  s.isNameChar || ";/?:@&=+$.%!~*'()".toList.contains s.char ||
    (inFull && [',', '[', ']'].contains s.char)

/-- Reads the characters of a tag in at most `steps` steps, and gives the text behind them. -/
def tagText (inFull : Bool) (steps : Nat) (spots : List Spot) : Option (List Char × List Spot) :=
  match steps, spots with
  | steps + 1, s :: rest =>
    if !isTagChar inFull s then some ([], s :: rest)
    else if s.char = '%' then do
      let (octets, rest) ← readOctets? spots
      let (text, rest) ← tagText inFull steps rest
      return (octets ++ text, rest)
    else do
      let (text, rest) ← tagText inFull steps rest
      return (s.char :: text, rest)
  | _, spots => some ([], spots)

/-- Reads the characters of a tag up to the first octet zero among them. -/
def readTagText (inFull : Bool) (spots : List Spot) : Option (List Char × List Spot) := do
  let (text, rest) ← tagText inFull spots.length spots
  return (text.takeWhile (· ≠ '\x00'), rest)

/-- Reads the characters of a tag, of which there has to be one. -/
def readTagText1 (inFull : Bool) (spots : List Spot) : Option (List Char × List Spot) :=
  if spots.head?.any (isTagChar inFull) then readTagText inFull spots else none

/-- Reads a tag between angle brackets behind the left one. -/
def readFullTag (spots : List Spot) : Option (Token × List Spot) := do
  let (text, rest) ← readTagText1 true spots
  if startsWith ['>'] rest then return (.tag [] text, rest.tail) else none

/-- Reads a tag without angle brackets behind its exclamation mark. A second mark behind a name ends
a handle. A mark with nothing behind it is a tag of its own. -/
def readShortTag (spots : List Spot) : Option (Token × List Spot) := do
  let (name, rest) := spots.span Spot.isNameChar
  if startsWith ['!'] rest then
    let (suffix, rest) ← readTagText1 false rest.tail
    return (.tag ('!' :: chars name ++ ['!']) suffix, rest)
  else
    let (suffix, rest) ← readTagText false spots
    return (if suffix = [] then .tag [] ['!'] else .tag ['!'] suffix, rest)

/-- Reads a tag behind its exclamation mark, and gives the text behind it. -/
def readTag (inFlow : Bool) (spots : List Spot) : Option (Token × List Spot) := do
  let (token, rest) ←
    if startsWith ['<'] spots then readFullTag spots.tail else readShortTag spots
  if endsWord rest ∨ (inFlow ∧ startsWith [','] rest) then return (token, rest) else none

/-! ## Directives -/

/-- Reads a number of at most nine digits. -/
def readVersionNumber (spots : List Spot) : Option (Nat × List Spot) :=
  let (digits, rest) := spots.span (·.char.isDigit)
  if digits = [] ∨ digits.length > 9 then none
  else some ((chars digits).foldl (fun n c => 10 * n + (c.toNat - '0'.toNat)) 0, rest)

/-- Reads a version: two numbers with a point between them. -/
def readVersion (spots : List Spot) : Option (Token × List Spot) := do
  let (major, rest) ← readVersionNumber (skipGaps spots)
  if startsWith ['.'] rest then
    let (minor, rest) ← readVersionNumber rest.tail
    return (.version major minor, rest)
  else none

/-- Reads a handle and the text it stands for. -/
def readHandle (spots : List Spot) : Option (Token × List Spot) := do
  let s :: rest := skipGaps spots | none
  if s.char ≠ '!' then none
  let (name, rest) := rest.span Spot.isNameChar
  let closes := startsWith ['!'] rest
  if ¬closes ∧ name ≠ [] then none
  let rest := if closes then rest.tail else rest
  if ¬rest.head?.any Spot.isGap then none
  let (meaning, rest) ← readTagText1 true (skipGaps rest)
  if endsWord rest then
    return (.handle ('!' :: chars name ++ (if closes then ['!'] else [])) meaning, rest)
  else none

/-- Reads a directive behind its percent sign, and gives the text behind its line. -/
def readDirective (spots : List Spot) : Option (Token × List Spot) := do
  let (name, rest) := spots.span Spot.isNameChar
  if ¬endsWord rest then none
  let (token, rest) ←
    if chars name = "YAML".toList then readVersion rest
    else if chars name = "TAG".toList then readHandle rest
    else none
  return (token, ← skipLineEnd? rest)

end LintRun.Yaml
