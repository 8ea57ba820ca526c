import LintRun.Proofs.Diff.Accounting

/-!
# The form of a hunk header

A hunk header has two ranges between its marks, and a range is one numeral or two. Whether a line
has this form does not depend on the script of the digits, whether its numbers can be read does.

## Main definitions

* `HunkRange.IsFormOf` says that a line begins with the form of a hunk header.
* `HunkRange.IsReadable` says that the numbers that matter are counts.
* `Hunk.HasHeader` says that a line is the header of a hunk.

## Main statements

* `HunkRange.ofChars?_eq_some_iff_isFormOf`: the form of a header is read off the line.
* `HunkRange.hunk?_eq_some_iff`: the numbers of a header are read if they are counts.
-/

namespace LintRun.Diff

/-- A run of decimal digits of whatever script. -/
structure IsNumeral (s : List Char) : Prop where
  ne_nil : s ≠ []
  isDecimal : ∀ c ∈ s, Text.isDecimal c = true

theorem digits?_eq_some_iff {s run rest : List Char} : Text.digits? s = some (run, rest) ↔
    s = run ++ rest ∧ IsNumeral run ∧ ∀ c, rest.head? = some c → Text.isDecimal c = false := by
  constructor
  · intro h
    have hsplit := List.takeWhile_append_dropWhile (p := Text.isDecimal) (l := s)
    have hrun : ∀ c ∈ s.takeWhile Text.isDecimal, Text.isDecimal c = true :=
      fun c hc => List.mem_takeWhile_imp hc
    have hrest := List.head?_dropWhile_not Text.isDecimal s
    rw [Text.digits?] at h
    split at h
    · cases h
    · next found hne =>
      obtain ⟨rfl, rfl⟩ := Prod.mk.inj (Option.some.inj h)
      refine ⟨hsplit.symm, ⟨hne, hrun⟩, fun c hc => ?_⟩
      rw [hc] at hrest
      simpa using hrest
  · rintro ⟨rfl, hrun, hrest⟩
    exact digits?_append rest hrun.ne_nil hrun.isDecimal hrest

/-- A start, and the count behind a comma if there is one. -/
def rangeText (start : List Char) : Option (List Char) → List Char
  | none => start
  | some count => start ++ ',' :: count

/-- A range is read up to the blank behind it. -/
theorem range?_eq_some_iff {s start behind : List Char} {count? : Option (List Char)}
    (hbehind : behind.head? = some ' ') :
    range? s = some ((start, count?), behind) ↔ s = rangeText start count? ++ behind ∧
      IsNumeral start ∧ ∀ count ∈ count?, IsNumeral count := by
  have hstop : ∀ c, behind.head? = some c → Text.isDecimal c = false := by
    intro c hc
    obtain rfl : ' ' = c := Option.some.inj (hbehind.symm.trans hc)
    decide +kernel
  have hcomma : ∀ c, some ',' = some c → Text.isDecimal c = false := by
    rintro c ⟨⟩
    decide +kernel
  constructor
  · intro h
    obtain ⟨⟨found, rest⟩, hstart, hmore⟩ := Option.bind_eq_some_iff.1 h
    obtain ⟨rfl, hfound, -⟩ := digits?_eq_some_iff.1 hstart
    dsimp only at hmore
    split at hmore
    · next more =>
      obtain ⟨⟨count, rest⟩, hdigits, hrest⟩ := Option.bind_eq_some_iff.1 hmore
      obtain ⟨rfl, hcount, -⟩ := digits?_eq_some_iff.1 hdigits
      cases hrest
      refine ⟨by simp [rangeText], hfound, ?_⟩
      rintro _ ⟨⟩
      exact hcount
    · cases hmore
      exact ⟨rfl, hfound, by rintro _ ⟨⟩⟩
  · rintro ⟨rfl, hstart, hcount⟩
    cases count? with
    | none =>
      have hdigits : Text.digits? (start ++ behind) = some (start, behind) :=
        digits?_eq_some_iff.2 ⟨rfl, hstart, hstop⟩
      obtain ⟨rest, rfl⟩ := List.head?_eq_some_iff.1 hbehind
      simp [range?, rangeText, hdigits]
    | some count =>
      have hdigits : Text.digits? (start ++ ',' :: (count ++ behind)) =
          some (start, ',' :: (count ++ behind)) :=
        digits?_eq_some_iff.2 ⟨rfl, hstart, hcomma⟩
      have hmore : Text.digits? (count ++ behind) = some (count, behind) :=
        digits?_eq_some_iff.2 ⟨rfl, hcount count rfl, hstop⟩
      simp [range?, rangeText, hdigits, hmore]

/-- ASCII digits whose number is a count. -/
structure IsCount (digits : List Char) : Prop where
  isDigit : ∀ c ∈ digits, c.isDigit = true
  le_max : Nat.ofDigitChars 10 digits 0 ≤ Count.max

/-- The number of a count that may be left out. -/
def countOf : Option (List Char) → Nat
  | none => 1
  | some digits => Nat.ofDigitChars 10 digits 0

theorem toOption_read_eq_some_iff {digits : List Char} {n : Nat} :
    (Count.read digits).toOption = some n ↔ IsCount digits ∧ n = Nat.ofDigitChars 10 digits 0 := by
  rw [toOption_eq_some_iff, Count.read_eq_ok_iff]
  constructor
  · rintro ⟨hdigits, rfl, hmax⟩
    exact ⟨⟨hdigits, hmax⟩, rfl⟩
  · rintro ⟨⟨hdigits, hmax⟩, rfl⟩
    exact ⟨hdigits, rfl, hmax⟩

theorem readCount_eq_some_iff {digits? : Option (List Char)} {n : Nat} :
    readCount digits? = some n ↔ (∀ digits ∈ digits?, IsCount digits) ∧ n = countOf digits? := by
  cases digits? with
  | none => simp [readCount, countOf, eq_comm]
  | some digits => simpa [readCount, countOf] using toOption_read_eq_some_iff

namespace HunkRange

/-- The form of a header with the given digits. -/
def text (range : HunkRange) : List Char :=
  "@@ -".toList ++ rangeText range.oldStart range.oldCount? ++ " +".toList ++
    rangeText range.newStart range.newCount? ++ " @@".toList

theorem text_append (range : HunkRange) (tail : List Char) : range.text ++ tail =
    "@@ -".toList ++ (rangeText range.oldStart range.oldCount? ++ (" +".toList ++
      (rangeText range.newStart range.newCount? ++ (" @@".toList ++ tail)))) := by
  show "@@ -".toList ++ rangeText range.oldStart range.oldCount? ++ " +".toList ++
    rangeText range.newStart range.newCount? ++ " @@".toList ++ tail = _
  simp only [List.append_assoc]

/-- A line begins with the form of a hunk header. Any text may follow. -/
structure IsFormOf (range : HunkRange) (line : String) : Prop where
  oldStart : IsNumeral range.oldStart
  oldCount : ∀ count ∈ range.oldCount?, IsNumeral count
  newStart : IsNumeral range.newStart
  newCount : ∀ count ∈ range.newCount?, IsNumeral count
  front : range.text <+: line.toList

theorem ofChars?_eq_some_iff_isFormOf {range : HunkRange} {line : String} :
    ofChars? line.toList = some range ↔ range.IsFormOf line := by
  have hplus : ∀ s : List Char, (" +".toList ++ s).head? = some ' ' := fun _ => rfl
  have hends : ∀ s : List Char, (" @@".toList ++ s).head? = some ' ' := fun _ => rfl
  rw [ofChars?_eq_some_iff]
  constructor
  · rintro ⟨old, new, tail, hline, hold, hnew⟩
    obtain ⟨rfl, holdStart, holdCount⟩ := (range?_eq_some_iff (hplus new)).1 hold
    obtain ⟨rfl, hnewStart, hnewCount⟩ := (range?_eq_some_iff (hends tail)).1 hnew
    exact ⟨holdStart, holdCount, hnewStart, hnewCount, tail,
      (text_append range tail).trans hline.symm⟩
  · rintro ⟨holdStart, holdCount, hnewStart, hnewCount, tail, hline⟩
    exact ⟨_, _, tail, hline.symm.trans (text_append range tail),
      (range?_eq_some_iff (hplus _)).2 ⟨rfl, holdStart, holdCount⟩,
      (range?_eq_some_iff (hends tail)).2 ⟨rfl, hnewStart, hnewCount⟩⟩

/-- The numbers that matter are counts. The start on the new side does not matter. -/
structure IsReadable (range : HunkRange) : Prop where
  oldStart : IsCount range.oldStart
  oldCount : ∀ count ∈ range.oldCount?, IsCount count
  newCount : ∀ count ∈ range.newCount?, IsCount count

/-- The hunk with an empty body and the numbers of a header. -/
def opened (range : HunkRange) : Hunk where
  oldStart := Nat.ofDigitChars 10 range.oldStart 0
  oldLines := countOf range.oldCount?
  newLines := countOf range.newCount?
  lines := []

theorem hunk?_eq_some_iff {range : HunkRange} {hunk : Hunk} :
    range.hunk? = some hunk ↔ range.IsReadable ∧ hunk = range.opened := by
  constructor
  · intro h
    obtain ⟨oldStart, holdStart, h⟩ := Option.bind_eq_some_iff.1 h
    obtain ⟨oldLines, holdLines, h⟩ := Option.bind_eq_some_iff.1 h
    obtain ⟨newLines, hnewLines, h⟩ := Option.bind_eq_some_iff.1 h
    obtain ⟨hstart, rfl⟩ := toOption_read_eq_some_iff.1 holdStart
    obtain ⟨hold, rfl⟩ := readCount_eq_some_iff.1 holdLines
    obtain ⟨hnew, rfl⟩ := readCount_eq_some_iff.1 hnewLines
    exact ⟨⟨hstart, hold, hnew⟩, (Option.some.inj h).symm⟩
  · rintro ⟨⟨hstart, hold, hnew⟩, rfl⟩
    rw [hunk?, toOption_read_eq_some_iff.2 ⟨hstart, rfl⟩, readCount_eq_some_iff.2 ⟨hold, rfl⟩,
      readCount_eq_some_iff.2 ⟨hnew, rfl⟩]
    rfl

theorem hunk?_eq_none_iff {range : HunkRange} : range.hunk? = none ↔ ¬range.IsReadable := by
  rw [Option.eq_none_iff_forall_ne_some]
  constructor
  · intro h hreadable
    exact h _ (hunk?_eq_some_iff.2 ⟨hreadable, rfl⟩)
  · intro h hunk hhunk
    exact h (hunk?_eq_some_iff.1 hhunk).1

end HunkRange

/-- A line is the header of a hunk: it has the form, and the numbers are those of the hunk. -/
def Hunk.HasHeader (hunk : Hunk) (line : String) : Prop :=
  ∃ range : HunkRange, range.IsFormOf line ∧ range.IsReadable ∧
    { hunk with lines := [] } = range.opened

theorem Hunk.isOpenedBy_iff_hasHeader {hunk : Hunk} {line : String} :
    hunk.IsOpenedBy line ↔ hunk.HasHeader line := by
  rw [IsOpenedBy, Option.bind_eq_some_iff]
  refine exists_congr fun range => ?_
  rw [HunkRange.ofChars?_eq_some_iff_isFormOf, HunkRange.hunk?_eq_some_iff]

end LintRun.Diff
