import LintRun.Shell.Escape
import LintRun.Shell.Pattern

/-!
# Filters

Many programs of a script only turn one stream of octets into another one: they take some of its
lines, sort them, count them, or exchange octets.

## Main definitions

* `linesOf` divides octets into lines.
* `exchange` exchanges octets as two sets of octets say.
* `sortLines` sorts lines, `countText` counts what a stream holds, `sequence` counts up or down.
-/

namespace LintRun.Shell

/-- The octet that ends a line. -/
def newline : UInt8 := 0x0A

/-- The lines of a stream, without the octets that end them. -/
def linesOf : List UInt8 → List (List UInt8)
  | [] => []
  | b :: rest =>
    if b = newline then [] :: linesOf rest
    else
      match rest, linesOf rest with
      | next :: _, line :: more => if next = newline then [b] :: more else (b :: line) :: more
      | _, more => [b] :: more

/-- The stream of some lines. -/
def ofLines (lines : List (List UInt8)) : List UInt8 :=
  lines.flatMap (· ++ [newline])

/-- The lines of a stream with the octets that end them. -/
def wholeLines (octets : List UInt8) : List (List UInt8) :=
  let lines := linesOf octets
  match lines.getLast? with
  | none => []
  | some last =>
    let whole := lines.dropLast.map (· ++ [newline])
    whole ++ [if octets.getLast? = some newline then last ++ [newline] else last]

/-! ## Parts of a stream -/

/-- Which part of a stream is taken. -/
structure Portion where
  /-- Whether octets are counted, and not lines. -/
  countsOctets : Bool := false
  /-- The number of them. -/
  count : Nat := 10
  /-- Whether the number is where the part starts, and not how long it is. -/
  fromStart : Bool := false
  /-- Whether the number is how much is left out at the end. -/
  leavesOut : Bool := false

/-- The first part of a stream. -/
def Portion.front (portion : Portion) (octets : List UInt8) : List UInt8 :=
  let first {α : Type} (items : List α) :=
    items.take (if portion.leavesOut then items.length - portion.count else portion.count)
  if portion.countsOctets then first octets else (first (wholeLines octets)).flatten

/-- The last part of a stream. -/
def Portion.back (portion : Portion) (octets : List UInt8) : List UInt8 :=
  let last {α : Type} (items : List α) :=
    if portion.fromStart then items.drop (portion.count - 1)
    else items.drop (items.length - portion.count)
  if portion.countsOctets then last octets else (last (wholeLines octets)).flatten

/-! ## Exchanging octets -/

/-- The octets of a class. -/
def classOctets (name : String) : List UInt8 :=
  let isIn := (classes.lookup name).getD fun _ => false
  ((List.range 128).filter (isIn ∘ Char.ofNat)).map UInt8.ofNat

/-- The octets from one to another. -/
def octetRange (first last : UInt8) : List UInt8 :=
  (List.range (last.toNat + 1 - first.toNat)).map fun n => UInt8.ofNat (first.toNat + n)

/-- The octets of a set, with ranges still to be put in, read in at most `steps` steps. Octets that
do not stand for themselves alone are marked. -/
def setOctets (steps : Nat) (s : List Char) : List (UInt8 × Bool) :=
  match steps, s with
  | steps + 1, '\\' :: c :: rest =>
    if isOctal c || (namedOctet? c).isSome then
      let (octet, rest) := unescape (c :: rest)
      (octet, true) :: setOctets steps rest
    else (Text.encode (String.singleton c)).map (·, true) ++ setOctets steps rest
  | steps + 1, '[' :: ':' :: rest =>
    let name := String.ofList (rest.takeWhile Char.isAlpha)
    if (classes.lookup name).isSome then
      (classOctets name).map (·, true) ++ setOctets steps (rest.drop (name.length + 2))
    else (0x5B, false) :: (0x3A, false) :: setOctets steps rest
  | steps + 1, c :: rest =>
    (Text.encode (String.singleton c)).map (·, false) ++ setOctets steps rest
  | _, _ => []

/-- Puts in the octets for the ranges of a set. -/
def withRanges : List (UInt8 × Bool) → List UInt8
  | (first, _) :: (dash, isMarked) :: (last, lastMarked) :: rest =>
    if dash = 0x2D && !isMarked then octetRange first last ++ withRanges rest
    else first :: withRanges ((dash, isMarked) :: (last, lastMarked) :: rest)
  | items => items.map Prod.fst
termination_by items => items.length

/-- The octets of a set. -/
def octetSet (s : String) : List UInt8 :=
  withRanges (setOctets s.length s.toList)

/-- How octets are exchanged. -/
structure Exchange where
  /-- Whether the first set holds all octets but the named ones. -/
  complements : Bool := false
  /-- Whether the octets of the first set are dropped. -/
  deletes : Bool := false
  /-- Whether repeated octets of the last set are written once. -/
  squeezes : Bool := false

/-- Drops octets that repeat the one in front of them and belong to a set. -/
def squeeze (isIn : UInt8 → Bool) : List UInt8 → List UInt8
  | a :: b :: rest =>
    if a = b && isIn a then squeeze isIn (b :: rest) else a :: squeeze isIn (b :: rest)
  | octets => octets

/-- Exchanges the octets of a stream. If the second set is shorter, its last octet stands for all
that lack. -/
def exchange (how : Exchange) (first : String) (second? : Option String) (octets : List UInt8) :
    List UInt8 :=
  let named := octetSet first
  let set := if how.complements then (octetRange 0 255).filter (!named.contains ·) else named
  let second := (second?.map octetSet).getD []
  let kept := if how.deletes then octets.filter (!set.contains ·) else octets
  let replaced (b : UInt8) : UInt8 :=
    match set.idxOf? b with
    | some i => (second[i]? <|> second.getLast?).getD b
    | none => b
  let new := if how.deletes || second?.isNone then kept else kept.map replaced
  if how.squeezes then
    squeeze (fun b => if second?.isSome then second.contains b else set.contains b) new
  else new

/-! ## Lines -/

/-- How lines are sorted. -/
structure Sorting where
  /-- Whether the numbers at the front of the lines count. -/
  isNumeric : Bool := false
  /-- Whether the order is descending. -/
  descends : Bool := false
  /-- Whether equal lines are written once. -/
  isUnique : Bool := false

/-- The integer at the front of a line. -/
def numberOfLine (line : List UInt8) : Int :=
  let s := (Text.decodeLossy line).toList.dropWhile Char.isWhitespace
  match s with
  | '-' :: s => -((digits? 10 (s.takeWhile Char.isDigit)).getD 0)
  | s => (digits? 10 (s.takeWhile Char.isDigit)).getD 0

/-- Whether a line does not stand behind another one. -/
def isBeforeOrSame : List UInt8 → List UInt8 → Bool
  | [], _ => true
  | _ :: _, [] => false
  | a :: rest, b :: rest' => a < b || (a = b && isBeforeOrSame rest rest')

/-- Drops lines that repeat the line in front of them. -/
def dropRepeated : List (List UInt8) → List (List UInt8)
  | a :: b :: rest => if a = b then dropRepeated (b :: rest) else a :: dropRepeated (b :: rest)
  | lines => lines

/-- Sorts lines. -/
def sortLines (sorting : Sorting) (lines : List (List UInt8)) : List (List UInt8) :=
  let isBefore (a b : List UInt8) : Bool :=
    let (m, n) := (numberOfLine a, numberOfLine b)
    if sorting.isNumeric && m ≠ n then m < n else isBeforeOrSame a b
  let sorted := lines.mergeSort fun a b => if sorting.descends then isBefore b a else isBefore a b
  if sorting.isUnique then dropRepeated sorted else sorted

/-- What a stream holds. -/
structure TextCount where
  /-- The number of lines. -/
  lines : Nat
  /-- The number of words. -/
  words : Nat
  /-- The number of octets. -/
  octets : Nat

/-- Whether an octet is blank. -/
def isBlankOctet (b : UInt8) : Bool :=
  b = 0x20 || (0x09 ≤ b && b ≤ 0x0D)

/-- The number of words, where the flag says whether a word goes on. -/
def countWords (inWord : Bool) : List UInt8 → Nat
  | [] => 0
  | b :: rest =>
    if isBlankOctet b then countWords false rest
    else countWords true rest + if inWord then 0 else 1

/-- Counts what a stream holds. -/
def countText (octets : List UInt8) : TextCount :=
  ⟨octets.count newline, countWords false octets, octets.length⟩

/-- The integers from one to another in steps, none if the steps lead away. -/
def sequence (first step last : Int) : List Int :=
  if step = 0 then []
  else
    let count := ((last - first).fdiv step + 1).toNat
    (List.range count).map fun (n : Nat) => first + n * step

end LintRun.Shell
