import LintRun.Shell.Escape

/-!
# Forms for output

A form is a text with places for arguments. A place says how its argument is written: as text, as a
number in some base, padded to some width. The form is used again while there are arguments left.

## Main definitions

* `Place` is a place in a form.
* `fillForm` writes arguments in a form.
-/

namespace LintRun.Shell

/-- A place in a form. -/
structure Place where
  /-- Whether the padding is behind the text. -/
  padsBehind : Bool := false
  /-- Whether numbers are padded with zeros. -/
  padsZero : Bool := false
  /-- Whether numbers have a sign also if they are positive. -/
  signs : Bool := false
  /-- Whether positive numbers have a space for the sign. -/
  spaces : Bool := false
  /-- Whether numbers show their base. -/
  showsBase : Bool := false
  /-- The least number of octets. -/
  width : Nat := 0
  /-- The most octets of a text, or the least digits of a number. -/
  precision? : Option Nat := none

/-- A piece of a form. -/
inductive FormPiece where
  /-- An octet. -/
  | octet (b : UInt8)
  /-- A place for an argument, with the letter that says how it is written. Numbers that are taken
  from the arguments are marked. -/
  | place (place : Place) (widthFromArgument precisionFromArgument : Bool) (letter : Char)
  /-- A place without a letter. -/
  | unfinished

/-- Takes the flags of a place. -/
def takeFlags (place : Place) : List Char → Place × List Char
  | '-' :: rest => takeFlags { place with padsBehind := true } rest
  | '0' :: rest => takeFlags { place with padsZero := true } rest
  | '+' :: rest => takeFlags { place with signs := true } rest
  | ' ' :: rest => takeFlags { place with spaces := true } rest
  | '#' :: rest => takeFlags { place with showsBase := true } rest
  | rest => (place, rest)

/-- Takes a number that may come from the arguments instead. -/
def takeNumber (s : List Char) : Option Nat × Bool × List Char :=
  match s with
  | '*' :: rest => (none, true, rest)
  | _ =>
    let digits := s.takeWhile Char.isDigit
    ((digits? 10 digits).map Int.toNat, false, s.drop digits.length)

/-- The piece that starts with a percent sign, and what is behind it. -/
def takePlace (s : List Char) : FormPiece × List Char :=
  let (place, s) := takeFlags {} s
  let (width?, fromWidth, s) := takeNumber s
  let place := { place with width := width?.getD 0 }
  let (place, fromPrecision, s) :=
    match s with
    | '.' :: s =>
      let (precision?, fromPrecision, s) := takeNumber s
      ({ place with precision? := some (precision?.getD 0) }, fromPrecision, s)
    | s => (place, false, s)
  match s with
  | [] => (.unfinished, [])
  | letter :: s => (.place place fromWidth fromPrecision letter, s)

/-- The pieces of a form, read in at most `steps` steps. -/
def formPieces (steps : Nat) (s : List Char) : List FormPiece :=
  match steps, s with
  | steps + 1, '\\' :: rest =>
    let (octet, rest) := unescape rest
    .octet octet :: formPieces steps rest
  | steps + 1, '%' :: '%' :: rest => .octet 0x25 :: formPieces steps rest
  | steps + 1, '%' :: rest =>
    let (piece, rest) := takePlace rest
    piece :: formPieces steps rest
  | steps + 1, c :: rest =>
    (Text.encode (String.singleton c)).map .octet ++ formPieces steps rest
  | _, _ => []

/-- The state while arguments are written. -/
structure Filling where
  /-- The octets so far, the latest first. -/
  written : List UInt8 := []
  /-- The arguments that are left. -/
  arguments : List String
  /-- The complaints so far, the latest first. -/
  complaints : List String := []
  /-- Whether the output ends. -/
  ends : Bool := false
  /-- Whether the form turned out to be no form. -/
  breaks : Bool := false

namespace Filling

/-- Adds octets. -/
def put (octets : List UInt8) (f : Filling) : Filling :=
  { f with written := octets.reverse ++ f.written }

/-- Adds a complaint. -/
def complain (s : String) (f : Filling) : Filling :=
  { f with complaints := s :: f.complaints }

/-- Takes the next argument. -/
def next (f : Filling) : Option String × Filling :=
  (f.arguments.head?, { f with arguments := f.arguments.tail })

/-- The digits of a number at the front. -/
def digitsAt (s : List Char) : List Char × Nat :=
  match s with
  | '0' :: 'x' :: rest =>
    if (rest.head?.bind (digitValue? 16)).isSome then (rest, 16) else (s, 8)
  | '0' :: 'X' :: rest =>
    if (rest.head?.bind (digitValue? 16)).isSome then (rest, 16) else (s, 8)
  | '0' :: _ => (s, 8)
  | _ => (s, 10)

/-- The integer at the front of a text, and what is behind it. -/
def integerAt (s : List Char) : Option (Int × List Char) :=
  let s := s.dropWhile Char.isWhitespace
  let (sign, s) :=
    match s with
    | '-' :: s => (-1, s)
    | '+' :: s => (1, s)
    | s => (1, s)
  let (s, base) := digitsAt s
  let digits := s.takeWhile fun c => (digitValue? base c).isSome
  (digits? base digits).map fun n => (sign * n, s.drop digits.length)

/-- The greatest and least integers of 64 bits. -/
def clamp (signed : Bool) (n : Int) : Int :=
  if signed then max (-wordMax - 1) (min n wordMax) else min n (wordCount - 1)

/-- Takes the next argument as an integer. -/
def nextInteger (signed : Bool) (f : Filling) : Int × Filling :=
  let (argument?, f) := f.next
  match argument? with
  | none => (0, f)
  | some s =>
    match s.toList with
    | '\'' :: rest => (firstOctet rest, f)
    | '"' :: rest => (firstOctet rest, f)
    | chars =>
      match integerAt chars with
      | none => (0, f.complain (s ++ ": expected numeric value"))
      | some (n, rest) =>
        let f := if rest = [] then f else f.complain (s ++ ": not completely converted")
        if clamp signed n = n then (n, f)
        else (clamp signed n, f.complain (s ++ ": Numerical result out of range"))
where
  /-- The first octet of a text. -/
  firstOctet (s : List Char) : Int :=
    match Text.encode (String.ofList s) with
    | [] => 0
    | octet :: _ => octet.toNat

end Filling

namespace Place

/-- Pads octets to the width of a place. -/
def pad (place : Place) (octets : List UInt8) : List UInt8 :=
  let padding := List.replicate (place.width - octets.length) 0x20
  if place.padsBehind then octets ++ padding else padding ++ octets

/-- The octets of a number with its sign and its digits. -/
def number (place : Place) (sign digits : String) : List UInt8 :=
  let least := place.precision?.getD 1
  let digits := if place.precision? = some 0 && digits = "0" then "" else digits
  let zeros (count : Nat) := String.ofList (List.replicate count '0')
  let digits := zeros (least - digits.length) ++ digits
  let body :=
    if place.padsZero && !place.padsBehind && place.precision?.isNone then
      sign ++ zeros (place.width - sign.length - digits.length) ++ digits
    else sign ++ digits
  place.pad (Text.encode body)

/-- The sign of an integer in a place. -/
def sign (place : Place) (n : Int) : String :=
  if n < 0 then "-" else if place.signs then "+" else if place.spaces then " " else ""

/-- The digits of a number in a base. -/
def digits (base n : Nat) : String :=
  String.ofList (Nat.toDigits base n)

/-- Writes the next argument in a place in the way of a letter. -/
def fill (place : Place) (letter : Char) (f : Filling) : Filling :=
  let limited (octets : List UInt8) :=
    match place.precision? with
    | some n => octets.take n
    | none => octets
  let unsigned (base : Nat) (mark : String) (upper : Bool) :=
    let (n, f) := f.nextInteger false
    let value := (n % wordCount).toNat
    let text := digits base value
    let text := if upper then text.map Char.toUpper else text
    f.put (place.number (if place.showsBase && value ≠ 0 then mark else "") text)
  match letter with
  | 's' =>
    let (argument?, f) := f.next
    f.put (place.pad (limited (Text.encode (argument?.getD ""))))
  | 'b' =>
    let (argument?, f) := f.next
    let (octets, ends) := shownText (argument?.getD "")
    { f.put (place.pad (limited octets)) with ends }
  | 'c' =>
    let (argument?, f) := f.next
    let octet := (Text.encode (argument?.getD "")).head?.getD 0
    f.put (place.pad [octet])
  | 'd' =>
    let (n, f) := f.nextInteger true
    f.put (place.number (place.sign n) (toString n.natAbs))
  | 'i' =>
    let (n, f) := f.nextInteger true
    f.put (place.number (place.sign n) (toString n.natAbs))
  | 'u' => unsigned 10 "" false
  | 'o' => unsigned 8 "0" false
  | 'x' => unsigned 16 "0x" false
  | 'X' => unsigned 16 "0X" true
  | _ =>
    let problem := "%" ++ String.singleton letter ++ ": invalid directive"
    { f.complain problem with breaks := true }

end Place

/-- Writes a piece of a form. -/
def FormPiece.fill (piece : FormPiece) (f : Filling) : Filling :=
  if f.ends || f.breaks then f
  else
    match piece with
    | .octet b => f.put [b]
    | .unfinished => { f.complain "missing format character" with breaks := true }
    | .place there fromWidth fromPrecision letter =>
      let (there, f) :=
        if fromWidth then
          let (n, f) := f.nextInteger true
          ({ there with width := n.natAbs, padsBehind := there.padsBehind || n < 0 }, f)
        else (there, f)
      let (there, f) :=
        if fromPrecision then
          let (n, f) := f.nextInteger true
          ({ there with precision? := if n < 0 then none else some n.toNat }, f)
        else (there, f)
      there.fill letter f

/-- Writes the arguments in a form, which is used at most `steps` times. -/
def fillAgain (pieces : List FormPiece) (steps : Nat) (f : Filling) : Filling :=
  match steps with
  | 0 => f
  | steps + 1 =>
    let before := f.arguments.length
    let f := pieces.foldl (fun f piece => piece.fill f) f
    if f.ends || f.breaks || f.arguments.isEmpty || f.arguments.length = before then f
    else fillAgain pieces steps f

/-- Writes arguments in a form. -/
def fillForm (form : String) (arguments : List String) : Filling :=
  fillAgain (formPieces form.length form.toList) (arguments.length + 1) { arguments }

end LintRun.Shell
