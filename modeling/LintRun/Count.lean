/-!
# Counts

Line numbers and line counts are machine words of 64 bits. They are natural numbers here, and the
bound `Count.max` is explicit wherever a sum may pass it or a number is read.

## Main definitions

* `Count.max` is the largest count.
* `Count.add` and `Count.sub` are the operations that stop at the bounds.
* `Count.read` reads a run of ASCII digits.
-/

namespace LintRun

/-- Why a run of digits is no count. -/
inductive CountError where
  /-- A character is no ASCII digit. -/
  | invalidDigit
  /-- The number is above `Count.max`. -/
  | tooLarge
  deriving DecidableEq, Repr

/-- The wording of a failed reading. -/
def CountError.message : CountError → String
  | .invalidDigit => "invalid digit found in string"
  | .tooLarge => "number too large to fit in target type"

namespace Count

/-- The largest count, `2 ^ 64 - 1`. -/
def max : Nat := 18446744073709551615

/-- The sum, or `Count.max` if the sum is above it. -/
def add (a b : Nat) : Nat :=
  min (a + b) max

/-- The difference, or zero if it is below zero. -/
def sub (a b : Nat) : Nat :=
  a - b

/-- Reads the digits `s` behind a number with the value `value`. The first character that is no
digit, or that makes the number too large, decides the error. -/
def readFrom (value : Nat) : List Char → Except CountError Nat
  | [] => .ok value
  | c :: rest =>
    if c.isDigit then
      let next := 10 * value + (c.toNat - '0'.toNat)
      if next ≤ max then readFrom next rest else .error .tooLarge
    else .error .invalidDigit

/-- Reads a run of ASCII digits as a count. -/
def read (s : List Char) : Except CountError Nat :=
  readFrom 0 s

/-- A count that was read is within the bound. -/
theorem readFrom_le_max {value : Nat} {s : List Char} {n : Nat} (hv : value ≤ max)
    (h : readFrom value s = .ok n) : n ≤ max := by
  induction s generalizing value with
  | nil => simp only [readFrom, Except.ok.injEq] at h; omega
  | cons c rest ih =>
    simp only [readFrom] at h
    split at h
    · split at h
      · next hle => exact ih hle h
      · simp at h
    · simp at h

end Count

end LintRun
