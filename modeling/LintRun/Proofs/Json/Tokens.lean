import LintRun.Json.Parser
import LintRun.Json.Printer
import LintRun.Proofs.List
import Mathlib.Data.List.Basic

/-!
# Reading written tokens

A string and a number are read back from their written forms, and what stands behind them is left.
Behind a string anything may stand. Behind a number nothing may stand that could belong to it.

## Main definitions

* `EndsNumber` holds of the texts that may stand behind a number.

## Main statements

* `readString_flatMap_escapeChar` and `readNumber_toString`: tokens are read back.
-/

namespace LintRun.Json

/-! ## Strings -/

theorem unit?_digitChar {n : Nat} (h : n < 0x20) :
    unit? '0' '0' (n / 16).digitChar (n % 16).digitChar = some n := by
  revert n
  decide

/-- A character is read from its written form, whichever form that is. -/
theorem readPoints_escapeChar (c : Char) {rest rest' : List Char} {points : List Nat}
    (h : readPoints rest = some (points, rest')) :
    readPoints (escapeChar c ++ rest) = some (c.toNat :: points, rest') := by
  unfold escapeChar
  split
  case h_8 hquote hbackslash _ _ _ _ _ =>
    split
    · next hcontrol => simp [readPoints, unit?_digitChar hcontrol, h]
    · next hcontrol =>
      rw [List.singleton_append, readPoints.eq_5 c rest hquote
        (fun _ _ _ _ _ hc _ => hbackslash hc) fun _ _ hc _ => hbackslash hc, if_neg hcontrol, h]
      rfl
  all_goals simp [readPoints, escaped?, h]

theorem readPoints_flatMap_escapeChar (s rest : List Char) :
    readPoints (s.flatMap escapeChar ++ '"' :: rest) = some (s.map Char.toNat, rest) := by
  induction s with
  | nil => simp [readPoints]
  | cons c s ih =>
    rw [List.flatMap_cons, List.append_assoc, readPoints_escapeChar c ih, List.map_cons]

/-- A character is no half of a surrogate pair. -/
theorem isSurrogate_toNat (c : Char) :
    isHighSurrogate c.toNat = false ∧ isLowSurrogate c.toNat = false := by
  have hvalid : c.toNat < 0xD800 ∨ 0xDFFF < c.toNat ∧ c.toNat < 0x110000 := c.valid
  simp only [isHighSurrogate, isLowSurrogate, Bool.and_eq_false_iff, decide_eq_false_iff_not]
  omega

theorem ofPoints?_map_toNat (s : List Char) : ofPoints? (s.map Char.toNat) = some s := by
  induction s with
  | nil => rfl
  | cons c s ih =>
    obtain ⟨hhigh, hlow⟩ := isSurrogate_toNat c
    cases s with
    | nil => simp [ofPoints?, hhigh, hlow]
    | cons d s =>
      rw [List.map_cons] at ih
      simp [ofPoints?, hhigh, hlow, ih]

theorem readString_flatMap_escapeChar (s rest : List Char) :
    readString (s.flatMap escapeChar ++ '"' :: rest) = some (some s, rest) := by
  rw [readString, readPoints_flatMap_escapeChar, Option.bind_eq_bind, Option.bind_some]
  dsimp only
  rw [ofPoints?_map_toNat]
  rfl

/-! ## Numbers -/

/-- Whether a character right behind a number could belong to it. -/
def continuesNumber (c : Char) : Bool :=
  c.isDigit || c = '.' || c = 'e' || c = 'E'

/-- A text may stand behind a number. -/
def EndsNumber (rest : List Char) : Prop :=
  ∀ c, rest.head? = some c → continuesNumber c = false

theorem endsNumber_cons {c : Char} (h : continuesNumber c = false) (rest : List Char) :
    EndsNumber (c :: rest) := by
  rintro d ⟨⟩
  exact h

/-- Only the numeral of zero starts with a zero. -/
theorem head?_toDigits_ne {n : Nat} (h : 0 < n) : (Nat.toDigits 10 n).head? ≠ some '0' := by
  induction n using Nat.strongRecOn with
  | ind n ih =>
    by_cases hn : n < 10
    · rw [Nat.toDigits_of_lt_base hn]
      simpa using Nat.ne_of_gt h
    · rw [Nat.toDigits_of_base_le (by omega) (by omega),
        List.head?_append_of_ne_nil _ Nat.toDigits_ne_nil]
      exact ih (n / 10) (by omega) (by omega)

theorem length_toDigits {n : Nat} (h : (Nat.toDigits 10 n).head? = some '0') :
    (Nat.toDigits 10 n).length = 1 := by
  obtain rfl : n = 0 := by
    by_contra hn
    exact head?_toDigits_ne (Nat.pos_of_ne_zero hn) h
  rfl

theorem ofDigits_toDigits (n : Nat) : ofDigits (Nat.toDigits 10 n) = n :=
  Nat.ofDigitChars_ten_toDigits

theorem run?_toDigits (n : Nat) {rest : List Char} (h : EndsNumber rest) :
    run? (Nat.toDigits 10 n ++ rest) = some (Nat.toDigits 10 n, rest) := by
  have hrest : ∀ c, rest.head? = some c → c.isDigit = false := by
    intro c hc
    have hends := h c hc
    simp only [continuesNumber, Bool.or_eq_false_iff] at hends
    exact hends.1.1.1
  obtain ⟨htake, hdrop⟩ := takeWhile_append_of_stop
    (fun c hc => Nat.isDigit_of_mem_toDigits (b := 10) (by omega) (by omega) hc) hrest
  rw [run?, htake, hdrop]
  cases hdigits : Nat.toDigits 10 n with
  | nil => exact absurd hdigits Nat.toDigits_ne_nil
  | cons c run => rfl

theorem readFraction_of_endsNumber {rest : List Char} (h : EndsNumber rest) :
    readFraction rest = some ([], rest) := by
  unfold readFraction
  split
  · next s => exact absurd (h '.' rfl) (by decide)
  · rfl

theorem readExponent_of_endsNumber {rest : List Char} (h : EndsNumber rest) :
    readExponent rest = some ([], rest) := by
  cases rest with
  | nil => rfl
  | cons c rest =>
    have hc := h c rfl
    simp only [continuesNumber, Bool.or_eq_false_iff, decide_eq_false_iff_not] at hc
    simp [readExponent, hc.1.2, hc.2]

/-- A numeral is read as its number, unless it says a negative zero. -/
theorem readUnsigned_toDigits (n : Nat) (negative : Bool) {rest : List Char}
    (hzero : negative = true → n ≠ 0) (hrest : EndsNumber rest) :
    readUnsigned negative (Nat.toDigits 10 n ++ rest) =
      some (.int (if negative then -n else n), rest) := by
  have hhead : ¬ ((Nat.toDigits 10 n).head? = some '0' ∧ (Nat.toDigits 10 n).length > 1) := by
    rintro ⟨hfirst, hlength⟩
    rw [length_toDigits hfirst] at hlength
    omega
  have hminus : ¬ (negative = true ∧ Nat.toDigits 10 n = ['0']) := by
    rintro ⟨hnegative, hdigits⟩
    have hvalue := ofDigits_toDigits n
    rw [hdigits] at hvalue
    exact hzero hnegative hvalue.symm
  rw [readUnsigned, run?_toDigits n hrest, Option.bind_eq_bind, Option.bind_some]
  dsimp only
  rw [if_neg hhead, readFraction_of_endsNumber hrest]
  simp only [Option.bind_some, readExponent_of_endsNumber hrest]
  simp [hminus, ofDigits_toDigits]

/-- What a number starts with. -/
theorem exists_toList_toString (i : Int) : ∃ c s, (toString i).toList = c :: s ∧
    (c = '-' ∨ c.isDigit = true) := by
  cases i with
  | ofNat n =>
    have htext : (toString (Int.ofNat n)).toList = Nat.toDigits 10 n := Nat.toList_repr
    obtain ⟨c, s, hdigits⟩ := List.exists_cons_of_ne_nil (Nat.toDigits_ne_nil (b := 10) (n := n))
    refine ⟨c, s, htext.trans hdigits, .inr ?_⟩
    have hmem : c ∈ Nat.toDigits 10 n := by simp [hdigits]
    exact Nat.isDigit_of_mem_toDigits (by omega) (by omega) hmem
  | negSucc n => exact ⟨'-', _, String.toList_append, .inl rfl⟩

theorem readNumber_toString (i : Int) {rest : List Char} (hrest : EndsNumber rest) :
    readNumber ((toString i).toList ++ rest) = some (.int i, rest) := by
  cases i with
  | ofNat n =>
    have htext : (toString (Int.ofNat n)).toList = Nat.toDigits 10 n := Nat.toList_repr
    have hread := readUnsigned_toDigits n false (by simp) hrest
    rw [htext]
    unfold readNumber
    split
    · -- A numeral has no minus in front.
      next s hminus =>
      rw [hminus] at hread
      cases hread
    · exact hread
  | negSucc n =>
    have htext : (toString (Int.negSucc n)).toList = '-' :: Nat.toDigits 10 (n + 1) := by
      rw [Int.toString_eq_repr, Int.repr, String.toList_append, Nat.toList_repr]
      rfl
    have hread := readUnsigned_toDigits (n + 1) true (by simp) hrest
    rw [htext, List.cons_append, readNumber, hread]
    simp [Int.negSucc_eq]

end LintRun.Json
