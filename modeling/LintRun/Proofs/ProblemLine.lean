import LintRun.ProblemLine
import LintRun.Proofs.Diff.Form

/-!
# The grammar of problem lines

A problem line is a path, a place and a message with marks between them. A line can be cut into
these parts in more than one way, as paths and messages may look like places. The reader finds the
cut with the shortest path, and there is one such cut only, because a place and what follows it can
be cut in one way.

## Main definitions

* `Place` is what stands behind the path, and `Place.IsOf` says that it has a form.
* `Divides` says that a line is cut into a path and a place, and `IsProblem` that this is the cut
  with the shortest path.
* `AreProblems` relates the lines of an output to the problems on them.

## Main statements

* `place?_eq_some_iff`: what the reader finds behind a path.
* `ofChars?_cases`: what it finds on a line.
* `exists_areProblems` and `AreProblems.ofLines_eq_mapM`: what it finds on the lines of an output.
-/

namespace LintRun

theorem Finding.onLine_eq (path : String) (line : Nat) (message : String) :
    Finding.onLine path line message = ⟨path, max 1 line, max 1 line, message⟩ := by
  have hfirst : max line 1 = max 1 line := Nat.max_comm line 1
  have hlast : max line (max line 1) = max 1 line := by omega
  rw [onLine, spanning, hlast, hfirst]

namespace ProblemLine

open Diff (IsNumeral IsCount digits?_eq_some_iff)

/-- The parts of a problem line behind the path. -/
structure Place where
  /-- The digits of the line number. -/
  line : List Char
  /-- The digits of the column number. -/
  column : List Char
  /-- The rule code or the level. -/
  mark : List Char
  /-- The message. -/
  message : List Char

/-- What stands between the mark and the message. -/
def Form.separator : Form → List Char
  | .coded => [' ']
  | .levelled => [':', ' ']

/-- A rule code is a word, a level is one of two. -/
def Form.IsMark : Form → List Char → Prop
  | .coded, mark => mark ≠ [] ∧ ∀ c ∈ mark, Text.isWordChar c = true
  | .levelled, mark => mark = "warning".toList ∨ mark = "error".toList

namespace Place

/-- The text of a place, with its marks. -/
def text (form : Form) (place : Place) : List Char :=
  ':' :: (place.line ++ ':' :: (place.column ++
    ':' :: ' ' :: (place.mark ++ (form.separator ++ place.message))))

/-- The message that is shown. A rule code goes behind it. -/
def shown (form : Form) (place : Place) : List Char :=
  match form with
  | .coded => place.message ++ [' ', '('] ++ place.mark ++ [')']
  | .levelled => place.message

/-- The parts are as the form says. -/
structure IsOf (form : Form) (place : Place) : Prop where
  line : IsNumeral place.line
  column : IsNumeral place.column
  mark : form.IsMark place.mark

end Place

variable {form : Form}

/-! ## Places -/

theorem behind?_eq_some_iff {front s rest : List Char} :
    behind? front s = some rest ↔ s = front ++ rest := by
  rw [behind?]
  constructor
  · intro h
    split at h
    · next hfront =>
      obtain rfl := Option.some.inj h
      exact List.prefix_iff_eq_append.1 (List.isPrefixOf_iff_prefix.1 hfront) |>.symm
    · cases h
  · rintro rfl
    simp

/-- A word goes up to the blank behind it. -/
theorem takeWhile_word_append {word : List Char} (h : ∀ c ∈ word, Text.isWordChar c = true)
    (message : List Char) :
    (word ++ ' ' :: message).takeWhile Text.isWordChar = word ∧
      (word ++ ' ' :: message).dropWhile Text.isWordChar = ' ' :: message := by
  refine takeWhile_append_of_stop h ?_
  rintro c ⟨⟩
  decide +kernel

/-- A mark ends where the separator starts. -/
theorem message?_eq_some_iff {s shown : List Char} :
    form.message? s = some shown ↔ ∃ mark message, form.IsMark mark ∧
      s = mark ++ (form.separator ++ message) ∧
      shown = Place.shown form ⟨[], [], mark, message⟩ := by
  cases form with
  | coded =>
    constructor
    · intro h
      rw [Form.message?] at h
      split at h
      · next code c rest message hcode hmessage =>
        obtain rfl := Option.some.inj h
        have hsplit := List.takeWhile_append_dropWhile (p := Text.isWordChar) (l := s)
        rw [hcode, hmessage] at hsplit
        refine ⟨c :: rest, message, ⟨by simp, fun d hd => ?_⟩, hsplit.symm, rfl⟩
        rw [← hcode] at hd
        exact List.mem_takeWhile_imp hd
      · cases h
    · rintro ⟨mark, message, ⟨hne, hmark⟩, rfl, rfl⟩
      obtain ⟨htake, hdrop⟩ := takeWhile_word_append hmark message
      obtain ⟨c, rest, rfl⟩ := List.exists_cons_of_ne_nil hne
      simp only [Form.message?, Form.separator, List.singleton_append, htake, hdrop]
      rfl
  | levelled =>
    have hlevels : ∀ level ∈ levels, ∀ message, behind? (level ++ [':', ' ']) s = some message ↔
        s = level ++ (Form.separator .levelled ++ message) := by
      intro level _ message
      rw [behind?_eq_some_iff, List.append_assoc]
      rfl
    constructor
    · intro h
      obtain ⟨level, hlevel, hmessage⟩ := List.exists_of_findSome?_eq_some h
      refine ⟨level, shown, ?_, (hlevels level hlevel shown).1 hmessage, rfl⟩
      simpa [levels, Form.IsMark] using hlevel
    · rintro ⟨mark, message, hmark, rfl, rfl⟩
      rcases hmark with rfl | rfl <;> rfl

/-- Marks of one form that stand in front of separators are the same. -/
theorem Form.IsMark.eq_of_append {mark mark' message message' : List Char}
    (h : form.IsMark mark) (h' : form.IsMark mark')
    (heq : mark ++ (form.separator ++ message) = mark' ++ (form.separator ++ message')) :
    mark = mark' ∧ message = message' := by
  cases form with
  | coded =>
    obtain ⟨htake, hdrop⟩ := takeWhile_word_append h.2 message
    obtain ⟨htake', hdrop'⟩ := takeWhile_word_append h'.2 message'
    rw [Form.separator, List.singleton_append, List.singleton_append] at heq
    rw [heq] at htake hdrop
    exact ⟨htake.symm.trans htake', (List.cons.inj (hdrop.symm.trans hdrop')).2⟩
  | levelled =>
    rcases h with rfl | rfl <;> rcases h' with rfl | rfl <;> simp_all [Form.separator]

/-- A numeral goes up to the colon behind it. -/
theorem digits?_append_colon {run : List Char} (h : IsNumeral run) (rest : List Char) :
    Text.digits? (run ++ ':' :: rest) = some (run, ':' :: rest) := by
  refine digits?_eq_some_iff.2 ⟨rfl, h, ?_⟩
  rintro c ⟨⟩
  decide +kernel

theorem eq_of_append_colon {run run' rest rest' : List Char} (h : IsNumeral run)
    (h' : IsNumeral run') (heq : run ++ ':' :: rest = run' ++ ':' :: rest') :
    run = run' ∧ rest = rest' := by
  have hdigits := digits?_append_colon h rest
  rw [heq, digits?_append_colon h' rest'] at hdigits
  obtain ⟨hrun, hrest⟩ := Prod.mk.inj (Option.some.inj hdigits)
  exact ⟨hrun.symm, (List.cons.inj hrest).2.symm⟩

/-- A place can be cut in one way. -/
theorem Place.eq_of_text_eq {place place' : Place} (h : place.IsOf form) (h' : place'.IsOf form)
    (heq : place.text form = place'.text form) : place = place' := by
  obtain ⟨line, column, mark, message⟩ := place
  obtain ⟨line', column', mark', message'⟩ := place'
  obtain ⟨rfl, heq⟩ := eq_of_append_colon h.line h'.line (List.cons.inj heq).2
  obtain ⟨rfl, heq⟩ := eq_of_append_colon h.column h'.column heq
  obtain ⟨rfl, rfl⟩ := h.mark.eq_of_append h'.mark (List.cons.inj heq).2
  rfl

/-- What is read behind a path is a place. -/
theorem place?_eq_some_iff {s line shown : List Char} :
    place? form s = some (line, shown) ↔ ∃ place : Place, place.IsOf form ∧ s = place.text form ∧
      line = place.line ∧ shown = place.shown form := by
  constructor
  · intro h
    unfold place? at h
    split at h
    · next s =>
      obtain ⟨⟨run, rest⟩, hline, h⟩ := Option.bind_eq_some_iff.1 h
      dsimp only at h
      split at h
      · next rest =>
        obtain ⟨⟨column, rest⟩, hcolumn, h⟩ := Option.bind_eq_some_iff.1 h
        dsimp only at h
        split at h
        · next rest =>
          obtain ⟨found, hmessage, h⟩ := Option.bind_eq_some_iff.1 h
          cases h
          obtain ⟨rfl, hrun, -⟩ := digits?_eq_some_iff.1 hline
          obtain ⟨rfl, hrun', -⟩ := digits?_eq_some_iff.1 hcolumn
          obtain ⟨mark, message, hmark, rfl, rfl⟩ := message?_eq_some_iff.1 hmessage
          exact ⟨⟨line, column, mark, message⟩, ⟨hrun, hrun', hmark⟩, rfl, rfl, by
            cases form <;> rfl⟩
        · cases h
      · cases h
    · cases h
  · rintro ⟨⟨line, column, mark, message⟩, ⟨hline, hcolumn, hmark⟩, rfl, rfl, rfl⟩
    have hmessage := message?_eq_some_iff.2 ⟨mark, message, hmark, rfl, rfl⟩
    simp only [place?, Place.text, digits?_append_colon hline, digits?_append_colon hcolumn,
      hmessage, Option.bind_eq_bind, Option.bind_some, Option.pure_def]
    cases form <;> rfl

/-! ## Cuts -/

/-- A line is a path, which is not empty, and a place. -/
structure Divides (form : Form) (s path : List Char) (place : Place) : Prop where
  eq_append : s = path ++ place.text form
  path_ne_nil : path ≠ []
  isOf : place.IsOf form

/-- The cut of a line with the shortest path. -/
structure IsProblem (form : Form) (s path : List Char) (place : Place) : Prop where
  divides : Divides form s path place
  shortest : ∀ path' place', Divides form s path' place' → path.length ≤ path'.length

theorem divides_cons_iff {c : Char} {s path : List Char} {place : Place} :
    Divides form (c :: s) path place ↔
      (path = [c] ∧ s = place.text form ∧ place.IsOf form) ∨
        ∃ rest, path = c :: rest ∧ Divides form s rest place := by
  constructor
  · rintro ⟨heq, hne, hof⟩
    obtain ⟨d, rest, rfl⟩ := List.exists_cons_of_ne_nil hne
    obtain ⟨rfl, rfl⟩ := List.cons.inj heq
    by_cases hrest : rest = []
    · subst hrest
      exact .inl ⟨rfl, rfl, hof⟩
    · exact .inr ⟨rest, rfl, rfl, hrest, hof⟩
  · rintro (⟨rfl, rfl, hof⟩ | ⟨rest, rfl, rfl, -, hof⟩)
    · exact ⟨rfl, by simp, hof⟩
    · exact ⟨rfl, by simp, hof⟩

/-- There is one cut with the shortest path. -/
theorem IsProblem.eq_of_isProblem {s path path' : List Char} {place place' : Place}
    (h : IsProblem form s path place) (h' : IsProblem form s path' place') :
    path = path' ∧ place = place' := by
  have hlength : path.length = path'.length :=
    le_antisymm (h.shortest _ _ h'.divides) (h'.shortest _ _ h.divides)
  have heq := h.divides.eq_append.symm.trans h'.divides.eq_append
  obtain ⟨rfl, htext⟩ := List.append_inj heq hlength
  exact ⟨rfl, Place.eq_of_text_eq h.divides.isOf h'.divides.isOf htext⟩

/-- The reader fails if there is no cut, and else it finds the cut with the shortest path. -/
theorem ofChars?_cases (form : Form) (s : List Char) :
    (ofChars? form s = none ∧ ∀ path place, ¬Divides form s path place) ∨
      ∃ path place, IsProblem form s path place ∧
        ofChars? form s = some ⟨path, place.line, place.shown form⟩ := by
  induction s with
  | nil =>
    refine .inl ⟨rfl, ?_⟩
    rintro path place ⟨heq, hne, -⟩
    simp [hne] at heq
  | cons c rest ih =>
    rw [ofChars?]
    cases hplace : place? form rest with
    | some found =>
      -- The path cannot be shorter than one character.
      obtain ⟨line, shown⟩ := found
      obtain ⟨place, hof, htext, rfl, rfl⟩ := place?_eq_some_iff.1 hplace
      refine .inr ⟨[c], place, ⟨divides_cons_iff.2 (.inl ⟨rfl, htext, hof⟩), ?_⟩, rfl⟩
      intro path place' hdivides
      exact List.length_pos_iff.2 hdivides.path_ne_nil
    | none =>
      -- No place starts behind the first character, so that it only makes each path longer.
      have hlonger : ∀ path place, Divides form (c :: rest) path place →
          ∃ path', path = c :: path' ∧ Divides form rest path' place := by
        intro path place hdivides
        refine (divides_cons_iff.1 hdivides).resolve_left ?_
        rintro ⟨-, htext, hof⟩
        rw [place?_eq_some_iff.2 ⟨place, hof, htext, rfl, rfl⟩] at hplace
        cases hplace
      rcases ih with ⟨hnone, hno⟩ | ⟨path, place, ⟨hdivides, hshortest⟩, hsome⟩
      · refine .inl ⟨by rw [hnone]; rfl, fun path place hdivides => ?_⟩
        obtain ⟨path', -, hdivides⟩ := hlonger path place hdivides
        exact hno path' place hdivides
      · refine .inr ⟨c :: path, place, ⟨divides_cons_iff.2 (.inr ⟨path, rfl, hdivides⟩), ?_⟩, by
          rw [hsome]; rfl⟩
        intro path' place' hdivides'
        obtain ⟨rest', rfl, hrest⟩ := hlonger path' place' hdivides'
        exact Nat.succ_le_succ (hshortest rest' place' hrest)

/-! ## Lines of output -/

theorem read_cases (digits : List Char) :
    (IsCount digits ∧ Count.read digits = .ok (Nat.ofDigitChars 10 digits 0)) ∨
      (¬IsCount digits ∧ ∃ e, Count.read digits = .error e) := by
  cases hread : Count.read digits with
  | ok n =>
    obtain ⟨hdigits, rfl, hmax⟩ := Count.read_eq_ok_iff.1 hread
    exact .inl ⟨⟨hdigits, hmax⟩, rfl⟩
  | error e =>
    refine .inr ⟨fun ⟨hdigits, hmax⟩ => ?_, e, rfl⟩
    rw [Count.read_eq_ok_iff.2 ⟨hdigits, rfl, hmax⟩] at hread
    cases hread

/-- A problem on a line of output. -/
structure Problem where
  /-- The line. -/
  output : String
  /-- The path on the line. -/
  path : List Char
  /-- The place on the line. -/
  place : Place

namespace Problem

/-- The problem is on its line. Blanks at the end of the line do not count. -/
def IsOn (form : Form) (x : Problem) : Prop :=
  IsProblem form (Text.dropBlankEnd x.output.toList) x.path x.place

/-- The finding for a problem whose line number is a count. -/
def finding (form : Form) (dir : Directory) (x : Problem) : Finding :=
  let line := max 1 (Nat.ofDigitChars 10 x.place.line 0)
  ⟨dir.relative (String.ofList x.path), line, line, String.ofList (x.place.shown form)⟩

/-- The finding for a problem, or the wording if its line number is no count. -/
def reading (form : Form) (dir : Directory) (x : Problem) : Except String Finding :=
  match Count.read x.place.line with
  | .ok _ => .ok (x.finding form dir)
  | .error e => .error (badNumber x.output e)

theorem reading_eq_ok_iff {dir : Directory} {x : Problem} {found : Finding} :
    x.reading form dir = .ok found ↔ IsCount x.place.line ∧ x.finding form dir = found := by
  rw [reading]
  rcases read_cases x.place.line with ⟨hcount, hread⟩ | ⟨hcount, e, hread⟩
  · simp [hread, hcount]
  · simp [hread, hcount]

theorem reading_eq_error_iff {dir : Directory} {x : Problem} {wording : String} :
    x.reading form dir = .error wording ↔
      ∃ e, Count.read x.place.line = .error e ∧ wording = badNumber x.output e := by
  rw [reading]
  cases Count.read x.place.line <;> simp [eq_comm]

theorem IsOn.eq_of_isOn {x y : Problem} (hx : x.IsOn form) (hy : y.IsOn form)
    (h : x.output = y.output) : x = y := by
  obtain ⟨output, path, place⟩ := x
  obtain ⟨output', path', place'⟩ := y
  obtain rfl : output = output' := h
  obtain ⟨rfl, rfl⟩ := hx.eq_of_isProblem hy
  rfl

end Problem

/-- The problems on the lines of an output, in order. A line that cannot be cut has none. -/
inductive AreProblems (form : Form) : List String → List Problem → Prop where
  | nil : AreProblems form [] []
  | problem {x : Problem} {lines : List String} {problems : List Problem} (hx : x.IsOn form)
      (h : AreProblems form lines problems) :
      AreProblems form (x.output :: lines) (x :: problems)
  | other {line : String} {lines : List String} {problems : List Problem}
      (hline : ∀ path place, ¬Divides form (Text.dropBlankEnd line.toList) path place)
      (h : AreProblems form lines problems) : AreProblems form (line :: lines) problems

theorem AreProblems.eq_of_areProblems {lines : List String} {problems problems' : List Problem}
    (h : AreProblems form lines problems) (h' : AreProblems form lines problems') :
    problems = problems' := by
  induction h generalizing problems' with
  | nil =>
    cases h'
    rfl
  | @problem x lines problems hx h ih =>
    generalize hline : x.output = line at h'
    cases h' with
    | problem hy h' => rw [hx.eq_of_isOn hy hline, ih h']
    | other hno => exact absurd hx.divides (hline ▸ hno _ _)
  | @other line lines problems hno h ih =>
    cases h' with
    | problem hy h' => exact absurd hy.divides (hno _ _)
    | other _ h' => exact ih h'

theorem exists_areProblems (form : Form) (lines : List String) :
    ∃ problems, AreProblems form lines problems := by
  induction lines with
  | nil => exact ⟨[], .nil⟩
  | cons line lines ih =>
    obtain ⟨problems, h⟩ := ih
    rcases ofChars?_cases form (Text.dropBlankEnd line.toList) with
      ⟨-, hno⟩ | ⟨path, place, hproblem, -⟩
    · exact ⟨problems, .other hno h⟩
    · exact ⟨⟨line, path, place⟩ :: problems, .problem (x := ⟨line, path, place⟩) hproblem h⟩

variable {dir : Directory}

theorem ofOutputLine_of_isOn {x : Problem} (hx : x.IsOn form) :
    ofOutputLine form dir x.output = (x.reading form dir).map some := by
  rcases ofChars?_cases form (Text.dropBlankEnd x.output.toList) with
    ⟨-, hno⟩ | ⟨path, place, hproblem, hread⟩
  · exact absurd hx.divides (hno _ _)
  · obtain ⟨rfl, rfl⟩ := hx.eq_of_isProblem hproblem
    rw [ofOutputLine, ofLine?, hread, Problem.reading]
    dsimp only
    rcases read_cases x.place.line with ⟨-, hnumber⟩ | ⟨-, e, hnumber⟩
    · simp only [hnumber, finding, Problem.finding, Finding.onLine_eq, Except.map]
    · rw [hnumber]
      rfl

theorem ofOutputLine_of_not_divides {line : String}
    (hno : ∀ path place, ¬Divides form (Text.dropBlankEnd line.toList) path place) :
    ofOutputLine form dir line = .ok none := by
  rcases ofChars?_cases form (Text.dropBlankEnd line.toList) with
    ⟨hnone, -⟩ | ⟨path, place, hproblem, -⟩
  · rw [ofOutputLine, ofLine?, hnone]
  · exact absurd hproblem.divides (hno _ _)

/-- The problems of an output are read one behind the other. -/
theorem AreProblems.ofLines_eq_mapM {lines : List String} {problems : List Problem}
    (h : AreProblems form lines problems) :
    ofLines form dir lines = problems.mapM (Problem.reading form dir) := by
  induction h with
  | nil => rfl
  | @problem x lines problems hx h ih =>
    rw [ofLines, ofOutputLine_of_isOn hx, ih, List.mapM_cons]
    cases x.reading form dir with
    | error e => rfl
    | ok found => cases problems.mapM (Problem.reading form dir) <;> rfl
  | other hno h ih =>
    rw [ofLines, ofOutputLine_of_not_divides hno, ih]
    cases List.mapM (Problem.reading form dir) _ <;> rfl

end ProblemLine

end LintRun
