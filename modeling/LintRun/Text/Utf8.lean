/-!
# UTF-8

The output of a command and the content of a file are octets. They are read as text in UTF-8.
Octets that are no text are refused, or shown by a replacement character: one for every part that is
as long as possible and starts like a character.

## Main definitions

* `readChar` reads one character, or the part that is none.
* `decode?` refuses octets that are no text, `decodeLossy` replaces them.
-/

namespace LintRun.Text

/-- What stands at the front of some octets. -/
inductive Decoded where
  /-- A character, and the octets behind it. -/
  | char (c : Char) (rest : List UInt8)
  /-- Octets that are no character, and those behind them. -/
  | broken (rest : List UInt8)

/-- The character that stands for octets that are none. -/
def replacement : Char := '\uFFFD'

/-- The last six bits of an octet. -/
def trailBits (b : UInt8) : Nat :=
  b.toNat % 0x40

/-- The bounds of the second octet of a character, by its first. Outside of them the character would
have a shorter form, be half of a surrogate pair, or be too large. -/
def secondBounds (lead : UInt8) : UInt8 × UInt8 :=
  if lead = 0xE0 then (0xA0, 0xBF)
  else if lead = 0xED then (0x80, 0x9F)
  else if lead = 0xF0 then (0x90, 0xBF)
  else if lead = 0xF4 then (0x80, 0x8F)
  else (0x80, 0xBF)

/-- Reads `count` octets that go on a character with the bits `bits`. The first of them lies between
the bounds. -/
def readTrail (bits : Nat) (bounds : UInt8 × UInt8) (count : Nat) (octets : List UInt8) :
    Decoded :=
  match count, octets with
  | 0, rest => .char (Char.ofNat bits) rest
  | _ + 1, [] => .broken []
  | count + 1, b :: rest =>
    if bounds.1 ≤ b && b ≤ bounds.2 then
      readTrail (0x40 * bits + trailBits b) (0x80, 0xBF) count rest
    else .broken (b :: rest)

/-- Reads the character that starts with the octet `lead`. -/
def readChar (lead : UInt8) (rest : List UInt8) : Decoded :=
  if lead < 0x80 then .char (Char.ofNat lead.toNat) rest
  else if 0xC2 ≤ lead && lead ≤ 0xDF then readTrail (lead.toNat % 0x20) (0x80, 0xBF) 1 rest
  else if 0xE0 ≤ lead && lead ≤ 0xEF then
    readTrail (lead.toNat % 0x10) (secondBounds lead) 2 rest
  else if 0xF0 ≤ lead && lead ≤ 0xF4 then
    readTrail (lead.toNat % 0x08) (secondBounds lead) 3 rest
  else .broken rest

/-- Reads at most `steps` characters. The function `onBroken` says what becomes of octets that are
none. -/
def decodeWith (onBroken : Option Char) (steps : Nat) (octets : List UInt8) :
    Option (List Char) :=
  match steps, octets with
  | steps + 1, lead :: rest =>
    match readChar lead rest with
    | .char c rest => (decodeWith onBroken steps rest).map (c :: ·)
    | .broken rest => do
      let c ← onBroken
      return c :: (← decodeWith onBroken steps rest)
  | _, _ => some []

/-- The text that octets stand for, if all of them are part of it. -/
def decode? (octets : List UInt8) : Option String :=
  (decodeWith none octets.length octets).map String.ofList

/-- The text that octets stand for. -/
def decodeLossy (octets : List UInt8) : String :=
  String.ofList ((decodeWith (some replacement) octets.length octets).getD [])

/-- The octets of a text. -/
def encode (s : String) : List UInt8 :=
  s.toUTF8.toList

end LintRun.Text
