import LintRun.Count
import LintRun.Text.Decimal

/-!
# Reading numerals

The decimal numeral of a number is a run of ASCII digits, which are decimal digits, and it is read
as that number as long as the number is within the bound for counts.
-/

namespace LintRun

theorem Text.isDecimal_of_isDigit {c : Char} (h : c.isDigit = true) :
    Text.isDecimal c = true := by
  have hrange : 48 ≤ c.toNat ∧ c.toNat ≤ 57 := by
    simpa [Char.isDigit, UInt32.le_iff_toNat_le] using h
  simp [Text.isDecimal, Text.inRanges, Text.decimalRanges, hrange]

namespace Count

/-- More digits do not make a number smaller. -/
private theorem le_ofDigitChars (s : List Char) (value : Nat) :
    value ≤ Nat.ofDigitChars 10 s value := by
  rw [Nat.ofDigitChars_eq_ofDigitChars_zero]
  have hpow : 1 ≤ 10 ^ s.length := Nat.pow_pos (by omega)
  calc value = 1 * value := (Nat.one_mul value).symm
    _ ≤ 10 ^ s.length * value := Nat.mul_le_mul_right value hpow
    _ ≤ _ := Nat.le_add_right _ _

/-- Digits whose number is within the bound are read as that number. -/
theorem readFrom_eq_ofDigitChars {s : List Char} (value : Nat)
    (hdigits : ∀ c ∈ s, c.isDigit = true) (hmax : Nat.ofDigitChars 10 s value ≤ max) :
    readFrom value s = .ok (Nat.ofDigitChars 10 s value) := by
  induction s generalizing value with
  | nil => rfl
  | cons c rest ih =>
    rw [Nat.ofDigitChars_cons] at hmax ⊢
    have hnext := Nat.le_trans (le_ofDigitChars rest _) hmax
    rw [readFrom, if_pos (hdigits c (by simp))]
    dsimp only
    rw [if_pos hnext]
    exact ih _ (fun d hd => hdigits d (List.mem_cons_of_mem c hd)) hmax

theorem isDigit_of_mem_toString {n : Nat} {c : Char} (h : c ∈ (toString n).toList) :
    c.isDigit = true := by
  rw [Nat.toString_eq_repr, Nat.toList_repr] at h
  exact Nat.isDigit_of_mem_toDigits (by omega) (by omega) h

theorem toString_toList_ne_nil (n : Nat) : (toString n).toList ≠ [] := by
  rw [Nat.toString_eq_repr, Nat.toList_repr]
  exact Nat.toDigits_ne_nil

theorem read_toString {n : Nat} (h : n ≤ max) : read (toString n).toList = .ok n := by
  have hvalue : Nat.ofDigitChars 10 (toString n).toList 0 = n := by
    rw [Nat.toString_eq_repr, Nat.toList_repr, Nat.ofDigitChars_ten_toDigits]
  have hread := readFrom_eq_ofDigitChars 0
    (fun c hc => isDigit_of_mem_toString hc) (by rw [hvalue]; exact h)
  rw [read, hread, hvalue]

/-- Only ASCII digits are read, and what is read is their number. -/
theorem ofDigitChars_of_readFrom {s : List Char} {value n : Nat} (h : readFrom value s = .ok n) :
    (∀ c ∈ s, c.isDigit = true) ∧ Nat.ofDigitChars 10 s value = n := by
  induction s generalizing value with
  | nil => exact ⟨by simp, Except.ok.inj h⟩
  | cons c rest ih =>
    rw [readFrom] at h
    split at h
    · next hc =>
      dsimp only at h
      split at h
      · obtain ⟨hrest, hvalue⟩ := ih h
        refine ⟨List.forall_mem_cons.2 ⟨hc, hrest⟩, ?_⟩
        rw [Nat.ofDigitChars_cons, hvalue]
      · cases h
    · cases h

theorem read_eq_ok_iff {s : List Char} {n : Nat} : read s = .ok n ↔
    (∀ c ∈ s, c.isDigit = true) ∧ Nat.ofDigitChars 10 s 0 = n ∧ n ≤ max := by
  constructor
  · intro h
    obtain ⟨hdigits, hvalue⟩ := ofDigitChars_of_readFrom h
    exact ⟨hdigits, hvalue, readFrom_le_max (Nat.zero_le _) h⟩
  · rintro ⟨hdigits, rfl, hmax⟩
    exact readFrom_eq_ofDigitChars 0 hdigits hmax

end Count

end LintRun
